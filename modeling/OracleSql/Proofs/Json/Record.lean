import OracleSql.Json.Record
import OracleSql.Proofs.Json.Reading

set_option autoImplicit false

namespace OracleSql

theorem Decoded.ok_bind {α β : Type} (a : α) (f : α → Decoded β) :
    (Except.ok a : Decoded α) >>= f = f a := rfl

theorem Decoded.bind_eq_ok_iff {α β : Type} {x : Decoded α} {f : α → Decoded β} {b : β} :
    x >>= f = .ok b ↔ ∃ a, x = .ok a ∧ f a = .ok b := by
  cases x with
  | ok a => simp [bind, Except.bind]
  | error fault => simp [bind, Except.bind]

theorem Decoded.map_eq_ok_iff {α β : Type} {x : Decoded α} {f : α → β} {b : β} :
    x.map f = .ok b ↔ ∃ a, x = .ok a ∧ f a = b := by
  cases x with
  | ok a => simp [Except.map]
  | error fault => simp [Except.map]

namespace Json

variable {α : Type} {write : α → Json} {decode : Json → Decoded α}

theorem get?_entry (k key : String) (o : Option α) :
    Keyed.get? (entry k write o) key = if k = key then o.map write else none := by
  cases o with
  | none => simp [entry, Keyed.get?]
  | some a => simp [entry, Keyed.get?]

@[simp] theorem reverse_entry (key : String) (o : Option α) :
    (entry key write o).reverse = entry key write o := by
  cases o <;> rfl

theorem mem_entry {key : String} {o : Option α} {e : String × Json} :
    e ∈ entry key write o ↔ ∃ a ∈ o, e = (key, write a) := by
  cases o <;> simp [entry]

theorem present_write {o : Option α} (back : ∀ a ∈ o, decode (write a) = .ok a) :
    present decode (o.map write) = .ok o := by
  cases o with
  | none => rfl
  | some a => simp [present, back a rfl, Except.map]

theorem exists_of_present {value : Option Json} {o : Option α} (h : present decode value = .ok o) :
    ∀ a ∈ o, ∃ doc, decode doc = .ok a := by
  cases value with
  | none => cases h; simp
  | some doc =>
    obtain ⟨a, back, rfl⟩ := Decoded.map_eq_ok_iff.1 h
    simpa using ⟨doc, back⟩

theorem nullable_write {o : Option α} (there : ∀ a, write a ≠ .null)
    (back : ∀ a ∈ o, decode (write a) = .ok a) : nullable decode (o.map write) = .ok o := by
  cases o with
  | none => rfl
  | some a =>
    have read := back a rfl
    rw [Option.map_some, nullable, read]
    next => rfl
    next => exact there a

theorem exists_of_nullable {value : Option Json} {o : Option α}
    (h : nullable decode value = .ok o) : ∀ a ∈ o, ∃ doc, decode doc = .ok a := by
  unfold nullable at h
  split at h
  next => cases h; simp
  next => cases h; simp
  next doc _ =>
    obtain ⟨a, back, rfl⟩ := Decoded.map_eq_ok_iff.1 h
    simpa using ⟨doc, back⟩

theorem decodeNat_ofNat {bits n : Nat} (fits : Text.Width.holds ⟨false, bits⟩ n = true) :
    decodeNat bits (ofNat n) = .ok n := by
  simp [decodeNat, decodeInt, ofNat, fits, Except.map]

theorem holds_of_decodeNat {bits n : Nat} {doc : Json} (h : decodeNat bits doc = .ok n) :
    Text.Width.holds ⟨false, bits⟩ n = true := by
  obtain ⟨i, read, rfl⟩ := Decoded.map_eq_ok_iff.1 h
  cases doc with
  | int m =>
    simp only [decodeInt] at read
    split at read
    next fits =>
      cases read
      have natural : 0 ≤ i := by
        simp only [Text.Width.holds, Text.Width.least, Bool.and_eq_true, decide_eq_true_eq] at fits
        exact fits.1
      rwa [Int.toNat_of_nonneg natural]
    next => cases read
  | _ => cases read

theorem decodeList_write {items : List α} (back : ∀ a ∈ items, decode (write a) = .ok a) :
    decodeList decode (.array (items.map write)) = .ok items := by
  rw [decodeList]
  induction items with
  | nil => rfl
  | cons a items ih =>
    have rest := ih fun b member => back b (List.mem_cons_of_mem a member)
    rw [List.map_cons, List.mapM_cons, back a (by simp), rest]
    rfl

theorem exists_of_decodeList {doc : Json} {items : List α} (h : decodeList decode doc = .ok items) :
    ∀ a ∈ items, ∃ doc, decode doc = .ok a := by
  cases doc with
  | array docs =>
    rw [decodeList] at h
    induction docs generalizing items with
    | nil => cases h; simp
    | cons doc docs ih =>
      rw [List.mapM_cons] at h
      obtain ⟨a, first, h⟩ := Decoded.bind_eq_ok_iff.1 h
      obtain ⟨rest, later, h⟩ := Decoded.bind_eq_ok_iff.1 h
      cases h
      exact List.forall_mem_cons.2 ⟨⟨doc, first⟩, ih later⟩
  | _ => cases h

theorem map_sorted_entry (key : String) {after : α → Json} {o : Option α}
    (same : ∀ a ∈ o, (write a).sorted = after a) :
    (entry key write o).map (fun e => (e.1, e.2.sorted)) = entry key after o := by
  cases o with
  | none => rfl
  | some a => simp [entry, same a rfl]

/-- The value comes back from its document, and from the text of it with the keys in order or as
they are declared. -/
structure Restores (decode : Json → Decoded α) (doc declared : Json) (a : α) : Prop where
  document : decode doc = .ok a
  text : (read? doc.print).map decode = some (.ok a)
  declaredText : (read? declared.print).map decode = some (.ok a)

theorem Restores.of_decode {doc declared : Json} {a : α} (document : decode doc = .ok a)
    {depth : Nat} (exact : Exact depth declared) (shallow : depth ≤ maxDepth)
    (sorted : declared.sorted = doc) : Restores decode doc declared a := by
  have deep := exact.mono shallow
  subst sorted
  refine ⟨document, ?_, ?_⟩
  next => rw [read?_print deep.sorted, sorted_sorted deep, Option.map_some, document]
  next => rw [read?_print deep, Option.map_some, document]

end Json

end OracleSql
