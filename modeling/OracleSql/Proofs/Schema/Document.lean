import OracleSql.Proofs.Json.Record
import OracleSql.Schema.Attribute

set_option autoImplicit false

namespace OracleSql

open Json (Exact)

namespace AttributeType

def knownNames : List String :=
  "Url" :: known.map Prod.fst

-- An unknown type does not go by the name of a known one.
def HasOwnName : AttributeType → Prop
  | .other name => name ∉ knownNames
  | _ => True

instance : DecidablePred HasOwnName
  | .other name => inferInstanceAs (Decidable (name ∉ knownNames))
  | .boolean | .byte | .float | .integer | .number | .decimal | .currency | .date | .dateTime
  | .time | .long | .duration | .text | .url | .note | .json | .image | .binary | .guid | .short
  | .counter => inferInstanceAs (Decidable True)

theorem hasOwnName_of_mem_known {e : String × AttributeType} (h : e ∈ known) : e.2.HasOwnName := by
  have all : ∀ e ∈ known, e.2.HasOwnName := by decide
  exact all e h

theorem find?_known_eq_none_iff (name : String) :
    known.find? (fun e => e.1 == name) = none ↔ name ∉ known.map Prod.fst := by
  simp only [List.find?_eq_none, beq_iff_eq, List.mem_map, not_exists, not_and]

theorem hasOwnName_ofName (name : String) : (ofName name).HasOwnName := by
  unfold ofName
  split
  next => trivial
  next other =>
    split
    next type found => exact hasOwnName_of_mem_known (List.mem_of_find?_eq_some found)
    next missing =>
      have unknown := (find?_known_eq_none_iff name).1 missing
      exact List.not_mem_cons_of_ne_of_not_mem other unknown

theorem ofName_name_iff (t : AttributeType) : ofName t.name = t ↔ t.HasOwnName := by
  constructor
  next => exact fun same => same ▸ hasOwnName_ofName t.name
  next =>
    intro own
    cases t with
    | other name =>
      have missing := (find?_known_eq_none_iff name).2 fun h => own (List.mem_cons_of_mem _ h)
      have canonical : name ≠ "Url" := fun same => own (same ▸ List.mem_cons_self)
      simp [ofName, AttributeType.name, canonical, missing]
    | _ => decide

end AttributeType

namespace Attribute

def Fits (a : Attribute) : Prop :=
  ∀ n ∈ [a.size, a.scale, a.precision].filterMap id, Text.word32.holds n = true

instance (a : Attribute) : Decidable a.Fits :=
  inferInstanceAs (Decidable (∀ n ∈ [a.size, a.scale, a.precision].filterMap id, _))

theorem fits_iff (a : Attribute) : a.Fits ↔
    (∀ n ∈ a.size, Text.word32.holds n = true) ∧ (∀ n ∈ a.scale, Text.word32.holds n = true) ∧
      ∀ n ∈ a.precision, Text.word32.holds n = true := by
  unfold Fits
  cases a.size <;> cases a.scale <;> cases a.precision <;> simp

def fields (a : Attribute) : List (String × Json) :=
  [("name", .text a.name), ("type", .text a.type.name)] ++
    Json.entry "size" Json.ofNat a.size ++ Json.entry "scale" Json.ofNat a.scale ++
    Json.entry "precision" Json.ofNat a.precision ++
    Json.entry "nullable" Json.bool a.allowsNull ++
    [("primary", .bool a.primary), ("oneToMany", .bool a.oneToMany)]

theorem toJson_eq (a : Attribute) : a.toJson = .ofEntries a.fields := rfl

theorem slots_toJson (a : Attribute) : Json.slots keys a.toJson =
    .ok [some (.text a.name), some (.text a.type.name), a.size.map Json.ofNat,
      a.scale.map Json.ofNat, a.precision.map Json.ofNat, a.allowsNull.map Json.bool,
      some (.bool a.primary), some (.bool a.oneToMany)] := by
  simp [toJson_eq, Json.ofEntries, Json.slots, keys, fields, Keyed.get?_ofList, Keyed.get?_append,
    Keyed.get?_cons, Json.get?_entry]

theorem decode_toJson {a : Attribute} (fits : a.Fits) :
    decode a.toJson = .ok { a with type := .ofName a.type.name } := by
  obtain ⟨size, scale, precision⟩ := (fits_iff a).1 fits
  have number {n : Option Nat} (words : ∀ m ∈ n, Text.word32.holds m = true) :
      Json.nullable (Json.decodeNat 32) (n.map Json.ofNat) = .ok n :=
    Json.nullable_write (fun _ => Json.noConfusion) fun m member =>
      Json.decodeNat_ofNat (words m member)
  have flag : Json.nullable Json.decodeBool (a.allowsNull.map Json.bool) = .ok a.allowsNull :=
    Json.nullable_write (fun _ => Json.noConfusion) fun _ _ => rfl
  have text (s : String) : Json.present Json.decodeText (some (.text s)) = .ok (some s) := rfl
  have bool (b : Bool) : Json.present Json.decodeBool (some (.bool b)) = .ok (some b) := rfl
  rw [decode, slots_toJson]
  simp only [Decoded.ok_bind, number size, number scale, number precision, flag, text, bool]
  rfl

-- Larger numbers are refused, and the type is read from its name.
theorem fits_of_decode {doc : Json} {a : Attribute} (h : decode doc = .ok a) :
    a.Fits ∧ a.type.HasOwnName := by
  have word {value : Option Json} {n : Option Nat}
      (read : Json.nullable (Json.decodeNat 32) value = .ok n) :
      ∀ m ∈ n, Text.word32.holds m = true := by
    intro m member
    obtain ⟨doc, read⟩ := Json.exists_of_nullable read m member
    exact Json.holds_of_decodeNat read
  rw [decode] at h
  obtain ⟨values, -, h⟩ := Decoded.bind_eq_ok_iff.1 h
  split at h
  next =>
    simp only [Decoded.bind_eq_ok_iff] at h
    obtain ⟨_, -, type, -, size, sizeRead, scale, scaleRead, precision, precisionRead, _, -, _, -,
      _, -, _, -, h⟩ := h
    cases h
    exact ⟨(fits_iff _).2 ⟨word sizeRead, word scaleRead, word precisionRead⟩,
      AttributeType.hasOwnName_ofName _⟩
  next => cases h

theorem decode_toJson_iff (a : Attribute) :
    decode a.toJson = .ok a ↔ a.Fits ∧ a.type.HasOwnName := by
  constructor
  next => exact fits_of_decode
  next =>
    rintro ⟨fits, own⟩
    rw [decode_toJson fits, (AttributeType.ofName_name_iff a.type).2 own]

def declared (a : Attribute) : Json :=
  .object a.fields

theorem exact_of_mem_fields {a : Attribute} (fits : a.Fits) {e : String × Json}
    (h : e ∈ a.fields) : Exact 0 e.2 := by
  obtain ⟨size, scale, precision⟩ := (fits_iff a).1 fits
  have word {n : Nat} (fits : Text.word32.holds n = true) : Exact 0 (Json.ofNat n) := by
    refine .int 0 n (.inr ?_)
    rw [Text.word32_holds_iff] at fits
    rw [Text.word64_holds_iff]
    omega
  simp only [fields, List.mem_append, List.mem_cons, List.not_mem_nil, or_false,
    Json.mem_entry] at h
  rcases h with (((((rfl | rfl) | ⟨n, member, rfl⟩) | ⟨n, member, rfl⟩) | ⟨n, member, rfl⟩) |
    ⟨b, -, rfl⟩) | rfl | rfl
  next => exact .text 0 _
  next => exact .text 0 _
  next => exact word (size n member)
  next => exact word (scale n member)
  next => exact word (precision n member)
  next => exact .bool 0 _
  next => exact .bool 0 _
  next => exact .bool 0 _

theorem exact_declared {a : Attribute} (fits : a.Fits) : Exact 1 a.declared :=
  .object 0 a.fields fun _ member => exact_of_mem_fields fits member

theorem sorted_declared {a : Attribute} (fits : a.Fits) : a.declared.sorted = a.toJson := by
  have still : ∀ e ∈ a.fields, (e.1, e.2.sorted) = e := fun e member =>
    congrArg (Prod.mk e.1) (exact_of_mem_fields fits member).sorted_eq
  rw [declared, Json.sorted, Json.sortedEntries_eq_map, List.map_congr_left still, List.map_id']
  rfl

def Restores (a : Attribute) : Prop :=
  Json.Restores decode a.toJson a.declared a

theorem restores_iff (a : Attribute) : a.Restores ↔ a.Fits ∧ a.type.HasOwnName := by
  constructor
  next => exact fun restores => (decode_toJson_iff a).1 restores.document
  next =>
    intro h
    exact .of_decode ((decode_toJson_iff a).2 h) (exact_declared h.1) (by decide)
      (sorted_declared h.1)

-- The second name of a known type is none for another one.
example : ¬(Attribute.ofType "home" (.other "Url")).Restores := by
  rw [restores_iff]
  decide

end Attribute

end OracleSql
