import OracleSql.Migration.Request
import OracleSql.Proofs.Schema.Document

set_option autoImplicit false

namespace OracleSql

open Json (Exact)

namespace Request

def attributes (r : Request) : List Attribute :=
  r.add ++ r.change ++ r.remove

def given (attributes : List Attribute) : Option (List Attribute) :=
  if attributes.isEmpty then none else some attributes

@[simp] theorem getD_given (attributes : List Attribute) :
    (given attributes).getD [] = attributes := by
  cases attributes <;> rfl

theorem eq_of_mem_given {attributes : List Attribute} :
    ∀ as ∈ given attributes, as = attributes := by
  cases attributes <;> simp [given]

def list (write : Attribute → Json) (attributes : List Attribute) : Json :=
  .array (attributes.map write)

def fields (r : Request) (write : Attribute → Json) : List (String × Json) :=
  [("appliesTo", .text r.appliesTo)] ++ Json.entry "model" Json.text r.model ++
    Json.entry "description" Json.text r.description ++
    [("version", .text r.version), ("add", list write r.add)] ++
    Json.entry "change" (list write) (given r.change) ++
    Json.entry "remove" (list write) (given r.remove)

theorem listEntry_eq (key : String) (attributes : List Attribute) :
    listEntry key attributes = Json.entry key (list Attribute.toJson) (given attributes) := by
  cases attributes <;> rfl

theorem toJson_eq (r : Request) : r.toJson = .ofEntries (r.fields Attribute.toJson) := by
  simp only [toJson, listEntry_eq]
  rfl

theorem slots_toJson (r : Request) : Json.slots keys r.toJson =
    .ok [some (.text r.appliesTo), r.model.map Json.text, r.description.map Json.text,
      some (.text r.version), some (list Attribute.toJson r.add),
      (given r.change).map (list Attribute.toJson),
      (given r.remove).map (list Attribute.toJson)] := by
  simp [toJson_eq, fields, Json.ofEntries, Json.slots, keys, Keyed.get?_ofList, Keyed.get?_append,
    Keyed.get?_cons, Json.get?_entry]

theorem present_attributes {o : Option (List Attribute)}
    (back : ∀ attributes ∈ o, ∀ a ∈ attributes, Attribute.decode a.toJson = .ok a) :
    Json.present (Json.decodeList Attribute.decode) (o.map (list Attribute.toJson)) = .ok o :=
  Json.present_write fun attributes member => Json.decodeList_write (back attributes member)

theorem decode_toJson {r : Request}
    (back : ∀ a ∈ r.attributes, Attribute.decode a.toJson = .ok a) : decode r.toJson = .ok r := by
  simp only [attributes, List.mem_append, or_imp, forall_and] at back
  obtain ⟨⟨add, change⟩, remove⟩ := back
  have added := present_attributes (o := some r.add) (by simpa using add)
  have changed := present_attributes fun as member => eq_of_mem_given as member ▸ change
  have removed := present_attributes fun as member => eq_of_mem_given as member ▸ remove
  have text (s : String) : Json.present Json.decodeText (some (.text s)) = .ok (some s) := rfl
  have optional (s : Option String) : Json.nullable Json.decodeText (s.map Json.text) = .ok s :=
    Json.nullable_write (fun _ => Json.noConfusion) fun _ _ => rfl
  rw [Option.map_some] at added
  rw [decode, slots_toJson]
  simp only [Decoded.ok_bind, added, changed, removed, text, optional]
  simp [Json.required, Decoded.ok_bind, pure, Except.pure]

theorem exists_of_decode {doc : Json} {r : Request} (h : decode doc = .ok r) :
    ∀ a ∈ r.attributes, ∃ doc, Attribute.decode doc = .ok a := by
  have each {value : Option Json} {o : Option (List Attribute)}
      (read : Json.present (Json.decodeList Attribute.decode) value = .ok o) :
      ∀ a ∈ o.getD [], ∃ doc, Attribute.decode doc = .ok a := by
    cases o with
    | none => simp
    | some attributes =>
      obtain ⟨doc, read⟩ := Json.exists_of_present read attributes rfl
      exact Json.exists_of_decodeList read
  rw [decode] at h
  obtain ⟨values, -, h⟩ := Decoded.bind_eq_ok_iff.1 h
  split at h
  next =>
    simp only [Decoded.bind_eq_ok_iff] at h
    obtain ⟨_, added, _, -, _, changed, _, -, _, -, _, removed, _, -, _, -, _, -, h⟩ := h
    cases h
    simp only [attributes, List.mem_append, or_imp, forall_and]
    exact ⟨⟨each added, each changed⟩, each removed⟩
  next => cases h

theorem decode_toJson_iff (r : Request) :
    decode r.toJson = .ok r ↔ ∀ a ∈ r.attributes, a.Fits ∧ a.type.HasOwnName := by
  constructor
  next =>
    intro back a member
    obtain ⟨doc, read⟩ := exists_of_decode back a member
    exact Attribute.fits_of_decode read
  next =>
    intro all
    exact decode_toJson fun a member => (Attribute.decode_toJson_iff a).2 (all a member)

def declared (r : Request) : Json :=
  .object (r.fields Attribute.declared)

theorem exact_declared {r : Request} (fits : ∀ a ∈ r.attributes, a.Fits) : Exact 3 r.declared := by
  simp only [attributes, List.mem_append, or_imp, forall_and] at fits
  obtain ⟨⟨add, change⟩, remove⟩ := fits
  have each {attributes : List Attribute} (fits : ∀ a ∈ attributes, a.Fits) :
      Exact 2 (list Attribute.declared attributes) := by
    refine .array 1 _ fun doc member => ?_
    obtain ⟨a, inside, rfl⟩ := List.mem_map.1 member
    exact Attribute.exact_declared (fits a inside)
  refine .object 2 _ fun e member => ?_
  simp only [fields, List.mem_append, List.mem_cons, List.not_mem_nil, or_false,
    Json.mem_entry] at member
  rcases member with ((((rfl | ⟨s, -, rfl⟩) | ⟨s, -, rfl⟩) | rfl | rfl) | ⟨as, member, rfl⟩) |
    ⟨as, member, rfl⟩
  next => exact .text 2 _
  next => exact .text 2 _
  next => exact .text 2 _
  next => exact .text 2 _
  next => exact each add
  next => exact each (eq_of_mem_given as member ▸ change)
  next => exact each (eq_of_mem_given as member ▸ remove)

theorem sorted_list {attributes : List Attribute} (fits : ∀ a ∈ attributes, a.Fits) :
    (list Attribute.declared attributes).sorted = list Attribute.toJson attributes := by
  simp only [list, Json.sorted, Json.sortedItems_eq_map, List.map_map, Json.array.injEq]
  exact List.map_congr_left fun a member => Attribute.sorted_declared (fits a member)

theorem sorted_declared {r : Request} (fits : ∀ a ∈ r.attributes, a.Fits) :
    r.declared.sorted = r.toJson := by
  simp only [attributes, List.mem_append, or_imp, forall_and] at fits
  obtain ⟨⟨add, change⟩, remove⟩ := fits
  have changed := Json.map_sorted_entry "change" fun as (member : as ∈ given r.change) =>
    sorted_list (eq_of_mem_given as member ▸ change)
  have removed := Json.map_sorted_entry "remove" fun as (member : as ∈ given r.remove) =>
    sorted_list (eq_of_mem_given as member ▸ remove)
  have text (key : String) (s : Option String) := Json.map_sorted_entry key
    fun t (_ : t ∈ s) => (rfl : (Json.text t).sorted = .text t)
  rw [declared, Json.sorted, Json.sortedEntries_eq_map, toJson_eq]
  simp [fields, Json.sorted, sorted_list add, changed, removed, text]

def Restores (r : Request) : Prop :=
  Json.Restores decode r.toJson r.declared r

theorem restores_iff (r : Request) :
    r.Restores ↔ ∀ a ∈ r.attributes, a.Fits ∧ a.type.HasOwnName := by
  constructor
  next => exact fun restores => (decode_toJson_iff r).1 restores.document
  next =>
    intro h
    have fits : ∀ a ∈ r.attributes, a.Fits := fun a member => (h a member).1
    exact .of_decode ((decode_toJson_iff r).2 h) (exact_declared fits) (by decide)
      (sorted_declared fits)

theorem serialization_restores :
    (∀ a : Attribute, a.Fits → (a.Restores ↔ a.type.HasOwnName)) ∧
      (∀ r : Request, (∀ a ∈ r.attributes, a.Fits) →
        (r.Restores ↔ ∀ a ∈ r.attributes, a.type.HasOwnName)) ∧
      (∀ (doc : Json) (a : Attribute), Attribute.decode doc = .ok a → a.Restores) ∧
      ∀ (doc : Json) (r : Request), Request.decode doc = .ok r → r.Restores := by
  refine ⟨fun a fits => ?_, fun r fits => ?_, fun doc a read => ?_, fun doc r read => ?_⟩
  next => exact (Attribute.restores_iff a).trans (and_iff_right fits)
  next =>
    rw [restores_iff]
    exact forall₂_congr fun a member => and_iff_right (fits a member)
  next => exact (Attribute.restores_iff a).2 (Attribute.fits_of_decode read)
  next =>
    refine (restores_iff r).2 fun a member => ?_
    obtain ⟨doc, read⟩ := exists_of_decode read a member
    exact Attribute.fits_of_decode read

def place : Attribute :=
  ⟨"place", .other "Geometry", some 0, none, some 4294967295, some false, false, false⟩

def home : Attribute :=
  .ofType "home" .url

def links : Request :=
  ⟨"HR.Links", none, some "", "1.0", [.ofType "id" .counter, place], [], [home]⟩

def homeLinks : Request :=
  ⟨"HR.Links", none, none, "1.1", [home], [], []⟩

-- The type goes by its second name.
def homeDocument : Json :=
  .object [("type", .text "Url"), ("size", .null), ("name", .text "home"), ("key", .int 1)]

-- The values without their keys, and without the last two.
def homeLinksDocument : Json :=
  .array [.text "HR.Links", .null, .null, .text "1.1", .array [homeDocument]]

theorem serialization_restores_links :
    (place.Fits ∧ place.type.HasOwnName ∧ place.Restores) ∧
      ((∀ a ∈ links.attributes, a.Fits) ∧ (∀ a ∈ links.attributes, a.type.HasOwnName) ∧
        links.Restores) ∧
      (Attribute.decode homeDocument = .ok home ∧ home.Restores) ∧
      Request.decode homeLinksDocument = .ok homeLinks ∧ homeLinks.Restores := by
  obtain ⟨alone, listed, aloneRead, listedRead⟩ := serialization_restores
  have fits : ∀ a ∈ links.attributes, a.Fits := by decide
  have named : ∀ a ∈ links.attributes, a.type.HasOwnName := by decide
  have read : Attribute.decode homeDocument = .ok home := rfl
  have readAll : Request.decode homeLinksDocument = .ok homeLinks := rfl
  exact ⟨⟨by decide, by decide, (alone place (by decide)).2 (by decide)⟩,
    ⟨fits, named, (listed links fits).2 named⟩, ⟨read, aloneRead homeDocument home read⟩,
    readAll, listedRead homeLinksDocument homeLinks readAll⟩

end Request

end OracleSql
