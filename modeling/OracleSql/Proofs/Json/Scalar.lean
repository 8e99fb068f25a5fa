import OracleSql.Json.Printer
import OracleSql.Json.Reader

set_option autoImplicit false

namespace OracleSql

namespace Json

theorem hexValue?_digitChar : ∀ n < 16, hexValue? (Nat.digitChar n) = some n := by
  decide

theorem codePoint?_control {c : Char} (small : c.toNat < 0x20) (cs : List Char) :
    codePoint? ('0' :: '0' :: hexDigit (c.toNat / 16) :: hexDigit (c.toNat % 16) :: cs) =
      some (c, cs) := by
  have high := hexValue?_digitChar (c.toNat / 16) (by omega)
  have low := hexValue?_digitChar (c.toNat % 16) (by omega)
  have zero : hexValue? '0' = some 0 := by decide
  have number : ((0 * 16 + 0) * 16 + c.toNat / 16) * 16 + c.toNat % 16 = c.toNat := by omega
  simp only [codePoint?, unit?, hexDigit, zero, high, low, Option.bind_eq_bind, Option.bind_some,
    Option.pure_def, number]
  rw [if_neg (by omega), if_neg (by omega), Char.ofNat_toNat]

theorem stringTail?_escapeChar (c : Char) (fuel : Nat) (cs : List Char) :
    stringTail? (fuel + 1) (escapeChar c ++ cs) =
      (stringTail? fuel cs).map fun (chars, rest) => (c :: chars, rest) := by
  unfold escapeChar
  split
  case h_8 =>
    split
    next small =>
      cases tail : stringTail? fuel cs <;>
        simp [stringTail?, escape?, codePoint?_control small, tail]
    next => cases tail : stringTail? fuel cs <;> simp [stringTail?, *]
  all_goals cases tail : stringTail? fuel cs <;> simp [stringTail?, escape?, tail]

theorem stringTail?_escapeChars (cs rest : List Char) {fuel : Nat} (enough : cs.length < fuel) :
    stringTail? fuel (cs.flatMap escapeChar ++ '"' :: rest) = some (cs, rest) := by
  induction cs generalizing fuel with
  | nil =>
    cases fuel with
    | zero => simp at enough
    | succ fuel => rfl
  | cons c cs ih =>
    cases fuel with
    | zero => simp at enough
    | succ fuel =>
      simp only [List.length_cons, Nat.add_lt_add_iff_right] at enough
      rw [List.flatMap_cons, List.append_assoc, stringTail?_escapeChar, ih enough]
      rfl

theorem length_le_escapeChars (cs : List Char) : cs.length ≤ (cs.flatMap escapeChar).length := by
  induction cs with
  | nil => simp
  | cons c cs ih =>
    have one : 0 < (escapeChar c).length := by
      unfold escapeChar
      split
      case h_8 => split <;> simp
      all_goals simp
    simp only [List.length_cons, List.flatMap_cons, List.length_append]
    omega

theorem toList_quote (s : String) :
    (quote s).toList = '"' :: (s.toList.flatMap escapeChar ++ ['"']) := by
  simp [quote]

theorem string?_quote (s : String) (rest : List Char) :
    string? (s.toList.flatMap escapeChar ++ '"' :: rest) = some (s, rest) := by
  have longer := length_le_escapeChars s.toList
  rw [string?, stringTail?_escapeChars s.toList rest (by simp only [List.length_append]; omega)]
  simp

-- What stands after a value in an array or an object, or nothing.
def Follows (rest : List Char) : Prop :=
  ∀ c ∈ rest.head?, c = ',' ∨ c = ']' ∨ c = '}'

theorem Follows.head {rest : List Char} (h : Follows rest) (kind : Char → Bool)
    (none : kind ',' = false ∧ kind ']' = false ∧ kind '}' = false) :
    ∀ c ∈ rest.head?, kind c = false := by
  intro c first
  rcases h c first with rfl | rfl | rfl
  next => exact none.1
  next => exact none.2.1
  next => exact none.2.2

theorem takeWhile_append_of_stop {kind : Char → Bool} {cs rest : List Char}
    (all : ∀ c ∈ cs, kind c = true) (stop : ∀ c ∈ rest.head?, kind c = false) :
    (cs ++ rest).takeWhile kind = cs := by
  rw [List.takeWhile_append_of_pos all]
  cases rest with
  | nil => simp
  | cons c rest => simp [stop c rfl]

theorem dropWhile_append_of_stop {kind : Char → Bool} {cs rest : List Char}
    (all : ∀ c ∈ cs, kind c = true) (stop : ∀ c ∈ rest.head?, kind c = false) :
    (cs ++ rest).dropWhile kind = rest := by
  rw [List.dropWhile_append_of_pos all]
  cases rest with
  | nil => rfl
  | cons c rest => simp [stop c rfl]

theorem exists_toDigits_eq_cons (n : Nat) :
    ∃ c cs, Nat.toDigits 10 n = c :: cs ∧ c.isDigit = true ∧ (c = '0' → n = 0) := by
  induction n using Nat.strongRecOn with
  | ind n ih =>
    by_cases small : n < 10
    next =>
      refine ⟨Nat.digitChar n, [], Nat.toDigits_of_lt_base small, ?_, Nat.digitChar_eq_zero.1⟩
      simpa using small
    next =>
      obtain ⟨c, cs, first, digit, zero⟩ := ih (n / 10) (by omega)
      refine ⟨c, cs ++ [Nat.digitChar (n % 10)], ?_, digit, fun same => ?_⟩
      next => simp [Nat.toDigits_of_base_le (by omega : 1 < 10) (by omega : 10 ≤ n), first]
      next => have := zero same; omega

-- A zero is read alone, and no other number starts with one.
theorem wholeDigits?_toDigits (n : Nat) {rest : List Char} (follows : Follows rest) :
    wholeDigits? (Nat.toDigits 10 n ++ rest) = some (Nat.toDigits 10 n, rest) := by
  have stop := follows.head Char.isDigit (by decide)
  by_cases zero : n = 0
  next =>
    subst zero
    cases rest with
    | nil => rfl
    | cons c rest => simp [wholeDigits?, stop c rfl]
  next =>
    obtain ⟨c, cs, first, -, leading⟩ := exists_toDigits_eq_cons n
    have other : c ≠ '0' := fun same => zero (leading same)
    have all : ∀ c ∈ Nat.toDigits 10 n, c.isDigit = true := fun c =>
      Nat.isDigit_of_mem_toDigits (by omega) (by omega)
    have digits := takeWhile_append_of_stop all stop
    have after := dropWhile_append_of_stop all stop
    rw [first, List.cons_append] at digits after ⊢
    simp [wholeDigits?, other, digits, after]

theorem fractionPart?_of_follows {rest : List Char} (follows : Follows rest) :
    fractionPart? rest = some (none, rest) := by
  have stop := follows.head (· == '.') (by decide)
  unfold fractionPart?
  split
  next => simp at stop
  next => rfl

theorem exponentPart?_of_follows {rest : List Char} (follows : Follows rest) :
    exponentPart? rest = some (none, rest) := by
  have stop := follows.head (fun c => c == 'e' || c == 'E') (by decide)
  cases rest with
  | nil => rfl
  | cons c rest =>
    have other := stop c rfl
    simp only [Bool.or_eq_false_iff, beq_eq_false_iff_ne] at other
    simp [exponentPart?, other]

theorem le_foldl_digits (cs : List Char) (n : Nat) :
    n ≤ cs.foldl (fun n c => 10 * n + Text.digitValue c) n := by
  induction cs generalizing n with
  | nil => simp
  | cons c cs ih =>
    have next := ih (10 * n + Text.digitValue c)
    simp only [List.foldl_cons]
    omega

-- The numbers on the way are less than the last one, so that no digit is one too many.
theorem accumulate_of_holds (cs : List Char) (n : Nat)
    (fits : Text.word64.holds (cs.foldl (fun n c => 10 * n + Text.digitValue c) n : Nat) = true) :
    accumulate n cs = (cs.foldl (fun n c => 10 * n + Text.digitValue c) n, []) := by
  induction cs generalizing n with
  | nil => rfl
  | cons c cs ih =>
    rw [List.foldl_cons] at fits ⊢
    have grows := le_foldl_digits cs (10 * n + Text.digitValue c)
    have next : Text.word64.holds (10 * n + Text.digitValue c : Nat) = true := by
      rw [Text.word64_holds_iff] at fits ⊢
      omega
    rw [accumulate]
    simp only [next, if_true]
    exact ih _ fits

theorem accumulate_toDigits {n : Nat} (fits : Text.word64.holds n = true) :
    accumulate 0 (Nat.toDigits 10 n) = (n, []) := by
  have value : (Nat.toDigits 10 n).foldl (fun n c => 10 * n + Text.digitValue c) 0 = n :=
    Nat.ofDigitChars_toDigits (by omega) (by omega)
  have back := accumulate_of_holds (Nat.toDigits 10 n) 0 (by simpa only [value] using fits)
  rwa [value] at back

theorem number?_toDigits (negative : Bool) {n : Nat} (fits : Text.word64.holds n = true)
    {rest : List Char} (follows : Follows rest) :
    number? negative (Nat.toDigits 10 n ++ rest) = some (integerOf negative n, rest) := by
  simp [number?, wholeDigits?_toDigits n follows, fractionPart?_of_follows follows,
    exponentPart?_of_follows follows, accumulate_toDigits fits]

end Json

end OracleSql
