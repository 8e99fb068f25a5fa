import Mathlib.Data.List.Induction
import Mathlib.Data.String.Basic
import OracleSql.Keyed

set_option autoImplicit false

namespace OracleSql

namespace Keyed

variable {α : Type}

@[simp] theorem get?_nil (key : String) : get? ([] : List (String × α)) key = none := rfl

theorem get?_cons (e : String × α) (entries : List (String × α)) (key : String) :
    get? (e :: entries) key = if e.1 = key then some e.2 else get? entries key := by
  by_cases same : e.1 = key <;> simp [get?, same]

theorem get?_append (a b : List (String × α)) (key : String) :
    get? (a ++ b) key = (get? a key).or (get? b key) := by
  induction a with
  | nil => rfl
  | cons e a ih =>
    rw [List.cons_append, get?_cons, get?_cons, ih]
    split <;> rfl

theorem get?_insert (entries : Keyed α) (k key : String) (value : α) :
    (entries.insert k value).get? key = if k = key then some value else entries.get? key := by
  induction entries with
  | nil => exact get?_cons ..
  | cons e rest ih =>
    simp only [insert]
    split
    next => exact get?_cons ..
    next =>
      split
      next same =>
        simp only [get?_cons, same]
        split <;> rfl
      next differs =>
        rw [get?_cons, get?_cons, ih]
        by_cases found : k = key
        next =>
          subst found
          simp [Ne.symm differs]
        next => simp [found]

theorem ofList_append_singleton (entries : List (String × α)) (e : String × α) :
    ofList (entries ++ [e]) = (ofList entries).insert e.1 e.2 := by
  simp [ofList]

-- Of equal keys the last one counts.
theorem get?_ofList (entries : List (String × α)) (key : String) :
    (ofList entries).get? key = get? entries.reverse key := by
  induction entries using List.reverseRecOn with
  | nil => rfl
  | append_singleton entries e ih => simp [ofList_append_singleton, get?_insert, get?_cons, ih]

theorem mem_of_mem_insert {entries : Keyed α} {key : String} {value : α} {e : String × α}
    (h : e ∈ entries.insert key value) : e = (key, value) ∨ e ∈ entries := by
  induction entries with
  | nil => simpa [insert] using h
  | cons first rest ih =>
    simp only [insert] at h
    split at h
    next => simpa using h
    next =>
      split at h
      next => simp only [List.mem_cons] at h ⊢; tauto
      next => simp only [List.mem_cons] at h ⊢; tauto

theorem mem_of_mem_ofList {entries : List (String × α)} {e : String × α}
    (h : e ∈ ofList entries) : e ∈ entries := by
  induction entries using List.reverseRecOn with
  | nil => exact h
  | append_singleton entries last ih =>
    rw [ofList_append_singleton] at h
    rcases mem_of_mem_insert h with rfl | member
    next => simp
    next => exact List.mem_append_left _ (ih member)

def Increasing (entries : List (String × α)) : Prop :=
  entries.Pairwise fun e f => e.1 < f.1

theorem Increasing.insert {entries : Keyed α} (h : Increasing entries) (key : String) (value : α) :
    Increasing (entries.insert key value) := by
  induction entries with
  | nil => simp [Keyed.insert, Increasing]
  | cons e rest ih =>
    simp only [Increasing, List.pairwise_cons] at h
    simp only [Keyed.insert]
    split
    next below =>
      simp only [Increasing, List.pairwise_cons, List.mem_cons, forall_eq_or_imp]
      exact ⟨⟨below, fun f member => lt_trans below (h.1 f member)⟩, h⟩
    next above =>
      split
      next same => simpa [Increasing, same] using h
      next differs =>
        refine List.pairwise_cons.2 ⟨fun f member => ?_, ih h.2⟩
        rcases mem_of_mem_insert member with rfl | member
        next => exact lt_of_le_of_ne (not_lt.1 above) (Ne.symm differs)
        next => exact h.1 f member

theorem increasing_ofList (entries : List (String × α)) : Increasing (ofList entries) := by
  induction entries using List.reverseRecOn with
  | nil => exact .nil
  | append_singleton entries last ih =>
    rw [ofList_append_singleton]
    exact ih.insert last.1 last.2

theorem insert_of_last {entries : Keyed α} {key : String} (last : ∀ e ∈ entries, e.1 < key)
    (value : α) : entries.insert key value = entries ++ [(key, value)] := by
  induction entries with
  | nil => rfl
  | cons e rest ih =>
    have below := last e (by simp)
    have later := ih fun f member => last f (List.mem_cons_of_mem e member)
    simp [insert, lt_asymm below, ne_of_gt below, later]

theorem ofList_of_increasing {entries : List (String × α)} (h : Increasing entries) :
    ofList entries = entries := by
  induction entries using List.reverseRecOn with
  | nil => rfl
  | append_singleton entries last ih =>
    obtain ⟨before, -, apart⟩ := List.pairwise_append.1 h
    rw [ofList_append_singleton, ih before]
    exact insert_of_last (fun e member => apart e member last (by simp)) last.2

end Keyed

end OracleSql
