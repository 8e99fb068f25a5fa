import Mathlib.Tactic.IntervalCases
import OracleSql.Instant

set_option autoImplicit false

namespace OracleSql.Date

-- The proleptic Gregorian calendar, by the lengths of its years and months.
def IsLeap (year : Int) : Prop :=
  year % 4 = 0 ∧ (year % 100 ≠ 0 ∨ year % 400 = 0)

instance (year : Int) : Decidable (IsLeap year) :=
  inferInstanceAs (Decidable (_ ∧ _))

def leapDays (year : Int) : Nat :=
  if IsLeap year then 1 else 0

def monthLength (year : Int) : Nat → Nat
  | 2 => 28 + leapDays year
  | 4 | 6 | 9 | 11 => 30
  | _ => 31

structure IsProper (d : Date) : Prop where
  month : 1 ≤ d.month ∧ d.month ≤ 12
  day : 1 ≤ d.day ∧ d.day ≤ monthLength d.year d.month

instance (d : Date) : Decidable d.IsProper :=
  decidable_of_iff
    ((1 ≤ d.month ∧ d.month ≤ 12) ∧ 1 ≤ d.day ∧ d.day ≤ monthLength d.year d.month)
    ⟨fun h => ⟨h.1, h.2⟩, fun h => ⟨h.month, h.day⟩⟩

def daysBeforeYear (year : Int) : Int :=
  365 * (year - 1) + (year - 1) / 4 - (year - 1) / 100 + (year - 1) / 400

def daysBeforeMonth (year : Int) (month : Nat) : Nat :=
  ((List.range' 1 (month - 1)).map (monthLength year)).sum

/-- The days since the first of January 1970. -/
def number (d : Date) : Int :=
  daysBeforeYear d.year + daysBeforeMonth d.year d.month + d.day - 719163

theorem leapDays_eq (year : Int) :
    (leapDays year : Int) = (year / 4 - (year - 1) / 4) - (year / 100 - (year - 1) / 100) +
      (year / 400 - (year - 1) / 400) := by
  by_cases leap : IsLeap year
  all_goals
    rw [leapDays]
    simp only [leap, if_true, if_false]
    unfold IsLeap at leap
    omega

section Cycle

variable {century cycle year day : Nat}

theorem firstOfYear_eq (century : Nat) (hb : cycle ≤ 24) (hk : year ≤ 3) :
    firstOfYear (100 * century + 4 * cycle + year) =
      36524 * century + 1461 * cycle + 365 * year := by
  unfold firstOfYear
  omega

theorem yearOfCycle_eq (hc : century ≤ 3) (hd : day ≤ 1460)
    (hs : 1461 * cycle + day < 36524) :
    yearOfCycle (36524 * century + 1461 * cycle + day) =
      100 * century + 4 * cycle + min 3 (day / 365) := by
  have leaps : (36524 * century + 1461 * cycle + day) / 1460 =
      25 * century + cycle + (24 * century + cycle + day) / 1460 := by omega
  have centuries : (36524 * century + 1461 * cycle + day) / 36524 = century := by omega
  have none : (36524 * century + 1461 * cycle + day) / 146096 = 0 := by omega
  have rest : 36524 * century + 1461 * cycle + day -
      (25 * century + cycle + (24 * century + cycle + day) / 1460) + century - 0 =
        365 * (100 * century + 4 * cycle) + (day - (24 * century + cycle + day) / 1460) := by omega
  unfold yearOfCycle
  rw [leaps, centuries, none, rest]
  omega

-- The day at the end of the cycle makes its last year a leap year.
theorem yearOfCycle_bounds (h : day < 146097) :
    yearOfCycle day ≤ 399 ∧ firstOfYear (yearOfCycle day) ≤ day ∧
      day < firstOfYear (yearOfCycle day + 1) + (yearOfCycle day + 1) / 400 := by
  by_cases last : day = 146096
  next =>
    subst last
    decide
  next =>
    obtain ⟨century, cycle, rest, rfl, hc, hb, hd, small⟩ : ∃ century cycle rest,
        day = 36524 * century + 1461 * cycle + rest ∧ century ≤ 3 ∧ cycle ≤ 24 ∧ rest ≤ 1460 ∧
          1461 * cycle + rest < 36524 :=
      ⟨day / 36524, day % 36524 / 1461, day % 36524 % 1461, by omega, by omega, by omega,
        by omega, by omega⟩
    obtain ⟨year, same, hk, starts, ends⟩ : ∃ year, min 3 (rest / 365) = year ∧ year ≤ 3 ∧
        365 * year ≤ rest ∧ (year < 3 → rest < 365 * year + 365) :=
      ⟨_, rfl, by omega, by omega, by omega⟩
    rw [yearOfCycle_eq hc hd small, same, firstOfYear_eq century hb hk]
    refine ⟨by omega, by omega, ?_⟩
    -- the next year may be in the same four years, in the next ones, or in the next century
    rcases Nat.lt_or_eq_of_le hk with more | rfl
    next =>
      have next : firstOfYear (100 * century + 4 * cycle + year + 1) = _ :=
        firstOfYear_eq century hb more
      have early := ends more
      omega
    next =>
      rcases Nat.lt_or_eq_of_le hb with more | rfl
      next =>
        have next := firstOfYear_eq century more (Nat.zero_le 3)
        have same : 100 * century + 4 * cycle + 3 + 1 =
            100 * century + 4 * (cycle + 1) + 0 := by omega
        rw [same, next]
        omega
      next =>
        have next := firstOfYear_eq (century + 1) (Nat.zero_le 24) (Nat.zero_le 3)
        have same : 100 * century + 4 * 24 + 3 + 1 = 100 * (century + 1) + 4 * 0 + 0 := by omega
        rw [same, next]
        omega

end Cycle

def fromMarch (year : Int) (shifted day : Nat) : Date :=
  let month := if shifted < 10 then shifted + 3 else shifted - 9
  ⟨year + (if month ≤ 2 then 1 else 0), month, day⟩

theorem month_fromMarch (year : Int) {shifted : Nat} (h : shifted ≤ 11) (day : Nat) :
    1 ≤ (fromMarch year shifted day).month ∧ (fromMarch year shifted day).month ≤ 12 := by
  simp only [fromMarch]
  split <;> omega

-- Five months have 153 days.
theorem monthLength_fromMarch (year : Int) {shifted : Nat} (h : shifted ≤ 10) (day : Nat) :
    monthLength (fromMarch year shifted day).year (fromMarch year shifted day).month =
      (153 * (shifted + 1) + 2) / 5 - (153 * shifted + 2) / 5 := by
  interval_cases shifted <;> rfl

theorem number_fromMarch (year : Int) {shifted : Nat} (h : shifted ≤ 11) (day : Nat) :
    (fromMarch year shifted (day + 1)).number =
      365 * year + year / 4 - year / 100 + year / 400 +
        ((153 * shifted + 2) / 5 + day : Nat) - 719468 := by
  have leap := leapDays_eq year
  interval_cases shifted
  all_goals
    simp [fromMarch, number, daysBeforeYear, daysBeforeMonth, List.range', monthLength]
    omega

theorem leapDays_le (year : Int) : leapDays year ≤ 1 := by
  unfold leapDays
  split <;> decide

theorem leapDays_add_cycle (year cycle : Int) :
    leapDays (year + cycle * 400) = leapDays year := by
  have same : IsLeap (year + cycle * 400) ↔ IsLeap year := by
    unfold IsLeap
    omega
  simp only [leapDays, same]

theorem firstOfYear_succ {year : Nat} (h : year ≤ 399) :
    firstOfYear (year + 1) + (year + 1) / 400 = firstOfYear year + 365 + leapDays (year + 1) := by
  have leap := leapDays_eq (year + 1)
  unfold firstOfYear
  omega

def monthOf (inYear : Nat) : Nat :=
  (5 * inYear + 2) / 153

theorem monthOf_bounds {inYear : Nat} (h : inYear ≤ 365) :
    monthOf inYear ≤ 11 ∧ (153 * monthOf inYear + 2) / 5 ≤ inYear ∧
      inYear < (153 * (monthOf inYear + 1) + 2) / 5 := by
  unfold monthOf
  omega

theorem ofDays_eq (cycle : Int) {day : Nat} (small : day < 146097) :
    ofDays (146097 * cycle + day - 719468) =
      fromMarch (yearOfCycle day + cycle * 400) (monthOf (day - firstOfYear (yearOfCycle day)))
        (day - firstOfYear (yearOfCycle day) -
          (153 * monthOf (day - firstOfYear (yearOfCycle day)) + 2) / 5 + 1) := by
  have parts : (146097 * cycle + day - 719468 + 719468) / 146097 = cycle ∧
      ((146097 * cycle + day - 719468 + 719468) % 146097).toNat = day := by omega
  unfold ofDays
  rw [parts.1, parts.2]
  rfl

theorem exists_fromMarch (days : Int) : ∃ (year : Int) (shifted inMonth : Nat),
    ofDays days = fromMarch year shifted (inMonth + 1) ∧ shifted ≤ 11 ∧
      (153 * shifted + 2) / 5 + inMonth < 365 + leapDays (year + 1) ∧
      (153 * shifted + 2) / 5 + inMonth < (153 * (shifted + 1) + 2) / 5 ∧
      days = 365 * year + year / 4 - year / 100 + year / 400 +
        ((153 * shifted + 2) / 5 + inMonth : Nat) - 719468 := by
  obtain ⟨cycle, day, small, rfl⟩ : ∃ cycle : Int, ∃ day : Nat, day < 146097 ∧
      days = 146097 * cycle + day - 719468 :=
    ⟨(days + 719468) / 146097, ((days + 719468) % 146097).toNat, by omega, by omega⟩
  obtain ⟨last, starts, ends⟩ := yearOfCycle_bounds small
  rw [firstOfYear_succ last, ← leapDays_add_cycle _ cycle] at ends
  have leap := leapDays_le (yearOfCycle day + 1 + cycle * 400)
  rw [ofDays_eq cycle small]
  generalize yearOfCycle day = year at *
  obtain ⟨inYear, rfl⟩ := Nat.exists_eq_add_of_le starts
  rw [Nat.add_sub_cancel_left]
  obtain ⟨december, first, next⟩ := monthOf_bounds (by omega : inYear ≤ 365)
  refine ⟨_, monthOf inYear, _, rfl, december, ?_⟩
  rw [Nat.add_sub_cancel' first]
  refine ⟨?_, next, ?_⟩
  next =>
    rw [Int.add_right_comm]
    omega
  next =>
    unfold firstOfYear
    omega

theorem isProper_ofDays (days : Int) : (ofDays days).IsProper := by
  obtain ⟨year, shifted, inMonth, found, december, inYear, next, -⟩ := exists_fromMarch days
  rw [found]
  refine ⟨month_fromMarch year december _, Nat.succ_pos _, ?_⟩
  rcases Nat.lt_or_eq_of_le december with early | rfl
  next =>
    rw [monthLength_fromMarch year (Nat.le_of_lt_succ early)]
    show inMonth + 1 ≤ _
    omega
  next =>
    show inMonth + 1 ≤ 28 + leapDays (year + 1)
    omega

theorem number_ofDays (days : Int) : (ofDays days).number = days := by
  obtain ⟨year, shifted, inMonth, found, december, -, -, same⟩ := exists_fromMarch days
  rw [found, number_fromMarch year december, same]

end OracleSql.Date
