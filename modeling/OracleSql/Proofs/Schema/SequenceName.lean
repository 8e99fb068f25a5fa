import OracleSql.Schema.ObjectName

set_option autoImplicit false

namespace OracleSql

structure SequencedColumn where
  entity : String
  column : String
  deriving DecidableEq

namespace SequencedColumn

variable {limit : Nat} {p q c : SequencedColumn}

def sequence (limit : Nat) (c : SequencedColumn) : String :=
  sequenceName c.entity c.column limit

def joined (c : SequencedColumn) : String :=
  c.entity ++ "_" ++ c.column

def cut (limit : Nat) (c : SequencedColumn) : String :=
  String.ofList (c.entity.toList.take (limit - sequenceEnding.length))

def Fits (limit : Nat) (c : SequencedColumn) : Prop :=
  (c.joined ++ sequenceEnding).length ≤ limit

instance : Decidable (c.Fits limit) :=
  Nat.decLe _ _

/-- The part of the joined name after one entity is a part of the other entity before its column. -/
def Overlaps (p q : SequencedColumn) : Prop :=
  ∃ middle, q.entity = p.entity ++ "_" ++ middle ∧ p.column = middle ++ "_" ++ q.column

theorem sequence_of_fits (h : c.Fits limit) : c.sequence limit = c.joined ++ sequenceEnding :=
  if_pos h

theorem sequence_of_not_fits (h : ¬c.Fits limit) :
    c.sequence limit = c.cut limit ++ sequenceEnding :=
  if_neg h

theorem ended_inj {a b : String} : a ++ sequenceEnding = b ++ sequenceEnding ↔ a = b := by
  rw [← String.toList_inj, ← String.toList_inj, String.toList_append, String.toList_append,
    List.append_left_inj]

theorem Overlaps.joined_eq (h : p.Overlaps q) : p.joined = q.joined := by
  obtain ⟨middle, entity, column⟩ := h
  simp only [joined, entity, column, String.append_assoc]

theorem Overlaps.length_lt (h : p.Overlaps q) : p.entity.length < q.entity.length := by
  obtain ⟨middle, entity, -⟩ := h
  have mark : "_".length = 1 := by decide
  rw [entity, String.length_append, String.length_append, mark]
  omega

theorem eq_or_overlaps {more : List Char} (entity : q.entity.toList = p.entity.toList ++ more)
    (column : '_' :: p.column.toList = more ++ '_' :: q.column.toList) : p = q ∨ p.Overlaps q := by
  obtain ⟨e, c⟩ := p
  obtain ⟨f, d⟩ := q
  cases more with
  | nil =>
    rw [List.append_nil, String.toList_inj] at entity
    rw [List.nil_append, List.cons.injEq, String.toList_inj] at column
    rw [mk.injEq]
    exact .inl ⟨entity.symm, column.2⟩
  | cons mark middle =>
    rw [List.cons_append, List.cons.injEq] at column
    obtain ⟨rfl, column⟩ := column
    refine .inr ⟨String.ofList middle, ?_, ?_⟩
    next => rw [← String.toList_inj, entity]; simp
    next => rw [← String.toList_inj, column]; simp

-- An underscore within a name may be taken for the one between the names.
theorem joined_eq_iff : p.joined = q.joined ↔ p = q ∨ p.Overlaps q ∨ q.Overlaps p := by
  constructor
  next =>
    intro same
    have chars : p.entity.toList ++ '_' :: p.column.toList =
        q.entity.toList ++ '_' :: q.column.toList := by
      simpa [joined, ← String.toList_inj] using same
    -- One of the entities starts with the other.
    rcases List.append_eq_append_iff.1 chars with ⟨more, entity, column⟩ | ⟨more, entity, column⟩
    next => exact (eq_or_overlaps entity column).imp_right .inl
    next => exact (eq_or_overlaps entity column).imp Eq.symm .inr
  next =>
    rintro (rfl | overlaps | overlaps)
    next => rfl
    next => exact overlaps.joined_eq
    next => exact overlaps.joined_eq.symm

theorem sequence_eq_iff_of_fits (hp : p.Fits limit) (hq : q.Fits limit) :
    p.sequence limit = q.sequence limit ↔ p.joined = q.joined := by
  rw [sequence_of_fits hp, sequence_of_fits hq, ended_inj]

theorem sequence_eq_iff_of_not_fits (hp : ¬p.Fits limit) (hq : ¬q.Fits limit) :
    p.sequence limit = q.sequence limit ↔ p.cut limit = q.cut limit := by
  rw [sequence_of_not_fits hp, sequence_of_not_fits hq, ended_inj]

theorem sequence_eq_iff_of_one_fits (hp : p.Fits limit) (hq : ¬q.Fits limit) :
    p.sequence limit = q.sequence limit ↔ p.joined = q.cut limit := by
  rw [sequence_of_fits hp, sequence_of_not_fits hq, ended_inj]

theorem sequence_ne_of_apart (different : p ≠ q) (apart : ¬(p.Overlaps q ∨ q.Overlaps p))
    (hp : p.Fits limit) (hq : q.Fits limit) : p.sequence limit ≠ q.sequence limit := by
  rw [Ne, sequence_eq_iff_of_fits hp hq, joined_eq_iff]
  exact not_or.2 ⟨different, apart⟩

theorem joined_inj_of_column_eq (column : p.column = q.column) : p.joined = q.joined ↔ p = q := by
  obtain ⟨e, c⟩ := p
  obtain ⟨f, d⟩ := q
  subst column
  simp [joined, ← String.toList_inj]

theorem Fits.of_shorter (column : p.column = q.column)
    (shorter : p.entity.length ≤ q.entity.length) (h : q.Fits limit) : p.Fits limit := by
  unfold Fits joined at h ⊢
  rw [column]
  simp only [String.length_append] at h ⊢
  omega

theorem sequence_eq_iff_of_shorter (column : p.column = q.column)
    (shorter : p.entity.length ≤ q.entity.length) :
    p.sequence limit = q.sequence limit ↔ p = q ∨
      ¬q.Fits limit ∧ (if p.Fits limit then p.joined else p.cut limit) = q.cut limit := by
  by_cases fits : q.Fits limit
  next =>
    rw [sequence_eq_iff_of_fits (fits.of_shorter column shorter) fits,
      joined_inj_of_column_eq column]
    simp [fits]
  next =>
    have same (equal : p = q) : ¬p.Fits limit ∧ p.cut limit = q.cut limit := by
      rw [equal]
      exact ⟨fits, rfl⟩
    by_cases short : p.Fits limit
    next =>
      rw [sequence_eq_iff_of_one_fits short fits, if_pos short]
      exact ⟨fun equal => .inr ⟨fits, equal⟩,
        fun h => h.elim (fun equal => absurd short (same equal).1) And.right⟩
    next =>
      rw [sequence_eq_iff_of_not_fits short fits, if_neg short]
      exact ⟨fun equal => .inr ⟨fits, equal⟩,
        fun h => h.elim (fun equal => (same equal).2) And.right⟩

end SequencedColumn

end OracleSql
