import OracleSql.Literal

set_option autoImplicit false

namespace OracleSql

-- what holds of all characters of a text is decided along the text, not over all characters
instance decidableForallMem (p : Char → Prop) [DecidablePred p] (cs : List Char) :
    Decidable (∀ c ∈ cs, p c) :=
  List.decidableBAll p cs

instance decidableForallMemOption (p : Char → Prop) [DecidablePred p] (c : Option Char) :
    Decidable (∀ d ∈ c, p d) :=
  Option.decidableForallMem c

theorem intercalate_induction {holds : String → Prop} {separator : String} (empty : holds "")
    (joined : ∀ {a b : String}, holds a → holds b → holds (a ++ separator ++ b))
    {items : List String} (all : ∀ s ∈ items, holds s) : holds (separator.intercalate items) := by
  induction items with
  | nil => simpa using empty
  | cons s items ih =>
    have first := all s List.mem_cons_self
    have rest := ih fun t member => all t (List.mem_cons_of_mem s member)
    cases items with
    | nil => simpa using first
    | cons t items =>
      rw [String.intercalate_cons_cons]
      exact joined first rest

def Consists (kind : Char → Bool) (s : String) : Prop :=
  ∀ c ∈ s.toList, kind c = true

instance (kind : Char → Bool) (s : String) : Decidable (Consists kind s) :=
  inferInstanceAs (Decidable (∀ c ∈ s.toList, kind c = true))

namespace Consists

variable {kind : Char → Bool} {a b : String}

theorem append_iff : Consists kind (a ++ b) ↔ Consists kind a ∧ Consists kind b := by
  simp [Consists, or_imp, forall_and]

theorem append (ha : Consists kind a) (hb : Consists kind b) : Consists kind (a ++ b) :=
  append_iff.2 ⟨ha, hb⟩

theorem ofList {cs : List Char} (h : ∀ c ∈ cs, kind c = true) :
    Consists kind (String.ofList cs) := by
  intro c member
  rw [String.toList_ofList] at member
  exact h c member

theorem ite {p : Prop} [Decidable p] (ha : Consists kind a) (hb : Consists kind b) :
    Consists kind (if p then a else b) := by
  split
  next => exact ha
  next => exact hb

theorem mono (h : Consists kind a) {wider : Char → Bool}
    (weaker : ∀ c, kind c = true → wider c = true) : Consists wider a :=
  fun c member => weaker c (h c member)

end Consists

def isBare (c : Char) : Bool :=
  c != '\'' && c != '"' && c != '\\'

-- Whatever embeds the text in quotes has nothing to escape in it.
def Bare (s : String) : Prop :=
  ∀ c ∈ s.toList, isBare c = true

instance (s : String) : Decidable (Bare s) :=
  inferInstanceAs (Decidable (∀ c ∈ s.toList, isBare c = true))

namespace Bare

variable {a b : String}

theorem append_iff : Bare (a ++ b) ↔ Bare a ∧ Bare b :=
  Consists.append_iff

theorem append (ha : Bare a) (hb : Bare b) : Bare (a ++ b) :=
  Consists.append ha hb

theorem ofList {cs : List Char} (h : ∀ c ∈ cs, isBare c = true) : Bare (String.ofList cs) :=
  Consists.ofList h

theorem ite {p : Prop} [Decidable p] (ha : Bare a) (hb : Bare b) : Bare (if p then a else b) :=
  Consists.ite ha hb

end Bare

theorem ne_of_isDigit {c d : Char} (digit : c.isDigit = true) (other : d.isDigit = false) :
    c ≠ d := by
  rintro rfl
  rw [digit] at other
  cases other

theorem isDigit_of_mem_toString {n : Nat} {c : Char} (h : c ∈ (toString n).toList) :
    c.isDigit = true := by
  rw [Nat.toString_eq_ofList_toDigits, String.toList_ofList] at h
  exact Nat.isDigit_of_mem_toDigits (by omega) (by omega) h

theorem isBare_of_isDigit {c : Char} (h : c.isDigit = true) : isBare c = true := by
  have quote : c ≠ '\'' := ne_of_isDigit h (by decide)
  have double : c ≠ '"' := ne_of_isDigit h (by decide)
  have backslash : c ≠ '\\' := ne_of_isDigit h (by decide)
  simp [isBare, quote, double, backslash]

theorem isBare_of_mem_toDigits {n : Nat} {c : Char} (h : c ∈ Nat.toDigits 10 n) :
    isBare c = true :=
  isBare_of_isDigit (Nat.isDigit_of_mem_toDigits (by omega) (by omega) h)

def isNumeral (c : Char) : Bool :=
  c.isDigit || c == '.' || c == '-' || c == '+' || c == 'e'

theorem isNumeral_of_isDigit {c : Char} (h : c.isDigit = true) : isNumeral c = true := by
  simp [isNumeral, h]

theorem isBare_of_isNumeral {c : Char} (h : isNumeral c = true) : isBare c = true := by
  simp only [isNumeral, Bool.or_eq_true, beq_iff_eq] at h
  rcases h with (((digit | rfl) | rfl) | rfl) | rfl
  next => exact isBare_of_isDigit digit
  all_goals decide

theorem Consists.bare {s : String} (h : Consists isNumeral s) : Bare s :=
  h.mono fun _ => isBare_of_isNumeral

theorem consists_toString_nat (n : Nat) : Consists isNumeral (toString n) :=
  fun _ member => isNumeral_of_isDigit (isDigit_of_mem_toString member)

theorem consists_toString_int (n : Int) : Consists isNumeral (toString n) := by
  cases n with
  | ofNat n => exact consists_toString_nat n
  | negSucc n => exact Consists.append (by decide) (consists_toString_nat (n + 1))

theorem bare_toString_nat (n : Nat) : Bare (toString n) :=
  (consists_toString_nat n).bare

theorem bare_toString_int (n : Int) : Bare (toString n) :=
  (consists_toString_int n).bare

theorem bare_padded (width : Nat) (n : Int) : Bare (padded width n) := by
  refine Bare.ofList fun c member => ?_
  simp only [List.mem_append, List.mem_replicate] at member
  rcases member with (sign | ⟨-, rfl⟩) | digit
  next =>
    split at sign
    next => cases List.mem_singleton.1 sign; decide
    next => cases sign
  next => decide
  next => exact isBare_of_mem_toDigits digit

theorem bare_yearText (year : Int) : Bare (yearText year) := by
  unfold yearText
  refine Bare.ite ?_ (Bare.ite ?_ (bare_padded _ _))
  next => exact Bare.append (by decide) (bare_padded _ _)
  next => exact Bare.append (by decide) (bare_padded _ _)

theorem bare_isoText (t : Instant) : Bare t.isoText := by
  simp only [Instant.isoText, Bare.append_iff, bare_padded, bare_yearText, true_and, and_true]
  decide

theorem isBare_of_mem_hexDigits {byte : UInt8} {c : Char} (h : c ∈ Value.hexDigits byte) :
    isBare c = true := by
  have digits : ∀ n : Fin 16, isBare (Nat.digitChar n).toUpper = true := by decide
  have bound := byte.toNat_lt
  simp only [Value.hexDigits, List.map_cons, List.map_nil, List.mem_cons, List.not_mem_nil,
    or_false] at h
  rcases h with rfl | rfl
  next => exact digits ⟨byte.toNat / 16, by omega⟩
  next => exact digits ⟨byte.toNat % 16, by omega⟩

theorem bare_hex (bytes : List UInt8) : Bare (Value.hex bytes) := by
  refine Bare.ofList fun c member => ?_
  obtain ⟨byte, -, digit⟩ := List.mem_flatMap.1 member
  exact isBare_of_mem_hexDigits digit

theorem isNumeral_of_mem_toDigits {n : Nat} {c : Char} (h : c ∈ Nat.toDigits 10 n) :
    isNumeral c = true :=
  isNumeral_of_isDigit (Nat.isDigit_of_mem_toDigits (by omega) (by omega) h)

namespace Double

theorem consists_positionalText (pointZero : Bool) (d : Decimal) :
    Consists isNumeral (positionalText pointZero d) := by
  have digits (count : Nat) :
      ∀ c ∈ List.replicate count '0' ++ Nat.toDigits 10 d.digits, isNumeral c = true := by
    intro c member
    rcases List.mem_append.1 member with zero | digit
    next => rw [List.eq_of_mem_replicate zero]; decide
    next => exact isNumeral_of_mem_toDigits digit
  unfold positionalText
  refine .ite (.append (.ofList fun c member => ?_) (.ite (by decide) (by decide)))
    (.append (.append (.ofList fun c member => ?_) (by decide)) (.ofList fun c member => ?_))
  next =>
    rcases List.mem_append.1 member with digit | zero
    next => exact isNumeral_of_mem_toDigits digit
    next => rw [List.eq_of_mem_replicate zero]; decide
  next => exact digits _ c (List.mem_of_mem_take member)
  next => exact digits _ c (List.mem_of_mem_drop member)

theorem consists_exponentText (d : Decimal) : Consists isNumeral (exponentText d) := by
  have digits : ∀ c ∈ Nat.toDigits 10 d.digits, isNumeral c = true := fun c member =>
    isNumeral_of_mem_toDigits member
  unfold exponentText
  refine .append (.append ?_ (.ite (by decide) (by decide))) (consists_toString_nat _)
  split
  next first only =>
    rw [only] at digits
    exact Consists.ofList digits
  next first rest _ parts =>
    rw [parts] at digits
    refine Consists.ofList fun c member => ?_
    rcases List.mem_cons.1 member with rfl | member
    next => exact digits c (by simp)
    next =>
      rcases List.mem_cons.1 member with rfl | member
      next => decide
      next => exact digits c (by simp [member])
  next => decide

theorem consists_finiteText (style : Style) (negative : Bool) (code : Nat) :
    Consists isNumeral (finiteText style negative code) := by
  unfold finiteText
  have number (d : Decimal) :
      Consists isNumeral (if code = 0 || style.positional d.leading then
        positionalText style.pointZero d else exponentText d) :=
    .ite (consists_positionalText _ d) (consists_exponentText d)
  exact .ite (.append (by decide) (number _)) (number _)

theorem bare_plainText (x : Double) : Bare x.plainText := by
  cases x with
  | nan => exact (by decide : Bare "NaN")
  | infinite negative => exact Bare.ite (by decide) (by decide)
  | finite negative code => exact (consists_finiteText _ _ _).bare

end Double

theorem Json.bare_floatText (x : Double) : Bare (Json.floatText x) := by
  cases x with
  | finite negative code => exact (Double.consists_finiteText _ _ _).bare
  | nan => exact (by decide : Bare "null")
  | infinite negative => exact (by decide : Bare "null")

end OracleSql
