import Mathlib.Data.List.Chain
import OracleSql.Migration.Version

set_option autoImplicit false

namespace OracleSql.Version

def padTo (n : Nat) (ns : List Nat) : List Nat :=
  ns ++ List.replicate (n - ns.length) 0

@[simp] theorem padTo_cons (n m : Nat) (ns : List Nat) :
    padTo (n + 1) (m :: ns) = m :: padTo n ns := by
  simp [padTo]

@[simp] theorem padTo_succ_nil (n : Nat) : padTo (n + 1) [] = 0 :: padTo n [] := by
  simp [padTo, List.replicate_succ]

def number? (segment : String) : Option Nat :=
  (Text.word64.read? segment.toList).map Int.toNat

def IsNumeric (version : String) : Prop :=
  ∀ segment ∈ segments version, (number? segment).isSome = true

instance (version : String) : Decidable (IsNumeric version) :=
  inferInstanceAs (Decidable (∀ segment ∈ segments version, (number? segment).isSome = true))

def numbers (segments : List String) : List Nat :=
  segments.map fun segment => (number? segment).getD 0

theorem compareSegment_of_numbers {a b : String} (ha : (number? a).isSome = true)
    (hb : (number? b).isSome = true) :
    compareSegment a b = compare ((number? a).getD 0) ((number? b).getD 0) := by
  rw [number?, Option.isSome_map] at ha hb
  obtain ⟨m, hm⟩ := Option.isSome_iff_exists.1 ha
  obtain ⟨n, hn⟩ := Option.isSome_iff_exists.1 hb
  have least := ((Text.word64_holds_iff m).1 (Text.Width.holds_of_read? hm)).1
  have least' := ((Text.word64_holds_iff n).1 (Text.Width.holds_of_read? hn)).1
  obtain ⟨m, rfl⟩ := Int.eq_ofNat_of_zero_le least
  obtain ⟨n, rfl⟩ := Int.eq_ofNat_of_zero_le least'
  rw [compareSegment, number?, number?, hm, hn]
  simp only [Option.map_some, Option.getD_some, Int.toNat_natCast, compare, compareOfLessAndEq,
    Int.ofNat_lt, Int.ofNat_inj]

theorem compareSegments_eq {n : Nat} {as bs : List String}
    (ha : ∀ segment ∈ as, (number? segment).isSome = true)
    (hb : ∀ segment ∈ bs, (number? segment).isSome = true) (left : as.length ≤ n)
    (right : bs.length ≤ n) :
    compareSegments as bs =
      List.compareLex compare (padTo n (numbers as)) (padTo n (numbers bs)) := by
  have zero : (number? "0").isSome = true := by decide
  -- A missing segment is compared as a zero, and that is also what lists are padded with.
  induction n generalizing as bs with
  | zero =>
    rw [List.length_eq_zero_iff.1 (Nat.le_zero.1 left),
      List.length_eq_zero_iff.1 (Nat.le_zero.1 right), compareSegments]
    exact Std.ReflCmp.compare_self.symm
  | succ n ih =>
    cases as with
    | nil =>
      cases bs with
      | nil =>
        rw [compareSegments]
        exact Std.ReflCmp.compare_self.symm
      | cons b bs =>
        rw [List.forall_mem_cons] at hb
        rw [compareSegments, ih ha hb.2 (Nat.zero_le n) (Nat.le_of_succ_le_succ right),
          compareSegment_of_numbers zero hb.1]
        simp only [numbers, List.map_cons, List.map_nil, padTo_cons, padTo_succ_nil,
          List.compareLex_cons_cons]
        rfl
    | cons a as =>
      rw [List.forall_mem_cons] at ha
      cases bs with
      | nil =>
        rw [compareSegments, ih ha.2 hb (Nat.le_of_succ_le_succ left) (Nat.zero_le n),
          compareSegment_of_numbers ha.1 zero]
        simp only [numbers, List.map_cons, List.map_nil, padTo_cons, padTo_succ_nil,
          List.compareLex_cons_cons]
        rfl
      | cons b bs =>
        rw [List.forall_mem_cons] at hb
        rw [compareSegments, ih ha.2 hb.2 (Nat.le_of_succ_le_succ left)
          (Nat.le_of_succ_le_succ right), compareSegment_of_numbers ha.1 hb.1]
        simp only [numbers, List.map_cons, padTo_cons, List.compareLex_cons_cons]

section Order

variable {a b c : String}

theorem compare_eq_compareLex (ha : IsNumeric a) (hb : IsNumeric b) {n : Nat}
    (left : (segments a).length ≤ n) (right : (segments b).length ≤ n) :
    Version.compare a b = List.compareLex compare (padTo n (numbers (segments a)))
      (padTo n (numbers (segments b))) :=
  compareSegments_eq ha hb left right

theorem exists_compareLex (ha : IsNumeric a) (hb : IsNumeric b) (hc : IsNumeric c) :
    ∃ l m n : List Nat, Version.compare a b = List.compareLex compare l m ∧
      Version.compare b c = List.compareLex compare m n ∧
      Version.compare a c = List.compareLex compare l n := by
  obtain ⟨n, la, lb, lc⟩ : ∃ n, (segments a).length ≤ n ∧ (segments b).length ≤ n ∧
      (segments c).length ≤ n :=
    ⟨(segments a).length + (segments b).length + (segments c).length, by omega, by omega, by omega⟩
  exact ⟨_, _, _, compare_eq_compareLex ha hb la lb, compare_eq_compareLex hb hc lb lc,
    compare_eq_compareLex ha hc la lc⟩

theorem compare_trans (ha : IsNumeric a) (hb : IsNumeric b) (hc : IsNumeric c)
    (first : Version.compare a b = .lt) (second : Version.compare b c = .lt) :
    Version.compare a c = .lt := by
  obtain ⟨l, m, n, ab, bc, ac⟩ := exists_compareLex ha hb hc
  rw [ab] at first
  rw [bc] at second
  rw [ac]
  exact Std.TransCmp.lt_trans first second

theorem isLE_trans (ha : IsNumeric a) (hb : IsNumeric b) (hc : IsNumeric c)
    (first : (Version.compare a b).isLE = true) (second : (Version.compare b c).isLE = true) :
    (Version.compare a c).isLE = true := by
  obtain ⟨l, m, n, ab, bc, ac⟩ := exists_compareLex ha hb hc
  rw [ab] at first
  rw [bc] at second
  rw [ac]
  exact Std.TransCmp.isLE_trans first second

end Order

theorem compareSegments_self (segments : List String) : compareSegments segments segments = .eq := by
  induction segments with
  | nil => rw [compareSegments]
  | cons a rest ih =>
    have same : compareSegment a a = .eq := by
      unfold compareSegment
      split
      next m n first second =>
        rw [first] at second
        cases second
        exact Std.ReflCmp.compare_self
      next => exact Std.ReflCmp.compare_self
    rw [compareSegments, same, ih]
    rfl

theorem compare_self (version : String) : Version.compare version version = .eq :=
  compareSegments_self (segments version)

theorem compareSegment_swap (a b : String) : compareSegment a b = (compareSegment b a).swap := by
  have texts : compare a b = (compare b a).swap := Std.OrientedCmp.eq_swap
  unfold compareSegment
  cases Text.word64.read? a.toList with
  | none => cases Text.word64.read? b.toList <;> exact texts
  | some m =>
    cases Text.word64.read? b.toList with
    | none => exact texts
    | some n =>
      have numbers : compare m n = (compare n m).swap := Std.OrientedCmp.eq_swap
      exact numbers

theorem compareSegments_swap (as bs : List String) :
    compareSegments as bs = (compareSegments bs as).swap := by
  fun_induction compareSegments as bs with
  | case1 => rw [compareSegments]; rfl
  | case2 a as ih => rw [compareSegments, Ordering.swap_then, ← ih, ← compareSegment_swap]
  | case3 b bs ih => rw [compareSegments, Ordering.swap_then, ← ih, ← compareSegment_swap]
  | case4 a as b bs ih => rw [compareSegments, Ordering.swap_then, ← ih, ← compareSegment_swap]

theorem compare_swap (a b : String) : Version.compare a b = (Version.compare b a).swap :=
  compareSegments_swap (segments a) (segments b)

theorem compare_ne_lt_iff {a b : String} :
    Version.compare a b ≠ .lt ↔ Version.compare b a ≠ .gt := by
  rw [compare_swap]
  cases Version.compare b a <;> decide

theorem not_lt_getLastD_of_isChain {version w : String} {later : List String}
    (numeric : ∀ u ∈ version :: later, IsNumeric u) (numeric' : IsNumeric w)
    (ascending : (version :: later).IsChain fun a b => Version.compare a b = .lt)
    (least : Version.compare version w ≠ .lt) :
    Version.compare (later.getLastD version) w ≠ .lt := by
  induction later generalizing version with
  | nil => exact least
  | cons next later ih =>
    rw [List.isChain_cons_cons] at ascending
    rw [List.forall_mem_cons, List.forall_mem_cons] at numeric
    rw [List.getLastD_cons]
    refine ih (List.forall_mem_cons.2 numeric.2) ascending.2 fun below => least ?_
    exact compare_trans numeric.1 numeric.2.1 numeric' ascending.1 below

theorem not_lt_of_isChain {version : String} {later : List String}
    (numeric : ∀ w ∈ version :: later, IsNumeric w)
    (ascending : (version :: later).IsChain fun a b => Version.compare a b = .lt) :
    Version.compare (later.getLastD version) version ≠ .lt := by
  refine not_lt_getLastD_of_isChain numeric (numeric version List.mem_cons_self) ascending ?_
  rw [compare_self]
  decide

theorem max_eq_right {a b : String} (h : Version.compare a b = .lt) : max a b = b := by
  rw [Version.max, h]

theorem latest_append {versions : List String} {version : String}
    (h : Version.compare (latest versions) version = .lt) :
    latest (versions ++ [version]) = version := by
  cases versions with
  | nil => rfl
  | cons first rest =>
    rw [List.cons_append, latest, List.foldl_append]
    exact max_eq_right h

end OracleSql.Version
