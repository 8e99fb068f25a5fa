import Mathlib.Data.List.DropRight
import Mathlib.Data.Nat.Digits.Defs
import OracleSql.Migration.Ledger
import OracleSql.Proofs.Migration.Version
import OracleSql.Proofs.Session.Perform
import OracleSql.Session.Script

set_option autoImplicit false

namespace OracleSql

namespace Text

theorem digitValue_lt {c : Char} (h : c.isDigit = true) : digitValue c < 10 := by
  have digit := Char.isDigit_iff_toNat.1 h
  have zero : '0'.toNat = 48 := rfl
  have nine : '9'.toNat = 57 := rfl
  rw [digitValue]
  omega

theorem digitChar_digitValue {c : Char} (h : c.isDigit = true) :
    Nat.digitChar (digitValue c) = c := by
  have digit := Char.isDigit_iff_toNat.1 h
  have zero : '0'.toNat = 48 := rfl
  rw [← Char.toNat_inj, Nat.toNat_digitChar_of_lt_ten (digitValue_lt h), digitValue]
  omega

theorem digitValue_digitChar {n : Nat} (h : n < 10) : digitValue (Nat.digitChar n) = n := by
  have zero : '0'.toNat = 48 := rfl
  rw [digitValue, Nat.toNat_digitChar_of_lt_ten h]
  omega

theorem ofDigits_eq (cs : List Char) :
    ofDigits cs = Nat.ofDigits 10 (cs.map digitValue).reverse := by
  rw [Nat.ofDigits_eq_foldr, List.foldr_reverse, List.foldl_map, ofDigits]
  simp [Nat.add_comm]

def dropZeros (cs : List Char) : List Char :=
  cs.dropWhile (· == '0')

theorem ofDigits_dropZeros (cs : List Char) : ofDigits (dropZeros cs) = ofDigits cs := by
  induction cs with
  | nil => rfl
  | cons c cs ih =>
    rw [dropZeros, List.dropWhile_cons]
    split
    next zero =>
      rw [beq_iff_eq.1 zero]
      exact ih
    next => rfl

def digitsOf (n : Nat) : List Char :=
  ((Nat.digits 10 n).map Nat.digitChar).reverse

theorem isEmpty_digitsOf (n : Nat) : (digitsOf n).isEmpty = (n == 0) := by
  rw [Bool.eq_iff_iff, List.isEmpty_iff, beq_iff_eq, digitsOf, List.reverse_eq_nil_iff,
    List.map_eq_nil_iff, Nat.digits_eq_nil_iff_eq_zero]

theorem ofDigits_digitsOf (n : Nat) : ofDigits (digitsOf n) = n := by
  have back : (Nat.digits 10 n).map (digitValue ∘ Nat.digitChar) = Nat.digits 10 n :=
    (List.map_congr_left fun d member =>
      digitValue_digitChar (Nat.digits_lt_base (by decide) member)).trans (List.map_id _)
  rw [ofDigits_eq, digitsOf, List.map_reverse, List.reverse_reverse, List.map_map, back,
    Nat.ofDigits_digits]

theorem digitsOf_ofDigits {cs : List Char} (digits : ∀ c ∈ cs, c.isDigit = true) :
    digitsOf (ofDigits cs) = dropZeros cs := by
  have still : ∀ c ∈ dropZeros cs, c.isDigit = true :=
    fun c member => digits c ((List.dropWhile_sublist _).subset member)
  have small : ∀ d ∈ ((dropZeros cs).map digitValue).reverse, d < 10 := by
    intro d member
    obtain ⟨c, inside, rfl⟩ := List.mem_map.1 (List.mem_reverse.1 member)
    exact digitValue_lt (still c inside)
  have leading (some : ((dropZeros cs).map digitValue).reverse ≠ []) :
      ((dropZeros cs).map digitValue).reverse.getLast some ≠ 0 := by
    have first : dropZeros cs ≠ [] := by simpa using some
    have other : ((dropZeros cs).head first == '0') = false := List.head_dropWhile_not _ first
    rw [List.getLast_reverse, List.head_map]
    intro zero
    have head := digitChar_digitValue (still _ (List.head_mem first))
    rw [zero] at head
    rw [← head] at other
    cases other
  have back : (dropZeros cs).map (Nat.digitChar ∘ digitValue) = dropZeros cs :=
    (List.map_congr_left fun c member => digitChar_digitValue (still c member)).trans
      (List.map_id _)
  rw [← ofDigits_dropZeros, ofDigits_eq, digitsOf, Nat.digits_ofDigits 10 (by decide) _ small leading,
    ← List.map_reverse, List.reverse_reverse, List.map_map, back]

end Text

namespace Version

def dropLastZeros (ns : List Nat) : List Nat :=
  ns.rdropWhile (· == 0)

theorem exists_replicate (ns : List Nat) :
    ∃ k, ns = dropLastZeros ns ++ List.replicate k 0 := by
  have zero (n : Nat) (member : n ∈ ns.rtakeWhile (· == 0)) : n = 0 := by
    simpa using List.mem_rtakeWhile_imp member
  have zeros : ns.rtakeWhile (· == 0) = List.replicate (ns.rtakeWhile (· == 0)).length 0 :=
    List.eq_replicate_iff.2 ⟨rfl, zero⟩
  refine ⟨(ns.rtakeWhile (· == 0)).length, ?_⟩
  rw [← zeros]
  exact List.rdropWhile_append_rtakeWhile.symm

theorem dropLastZeros_append_replicate (ns : List Nat) (k : Nat) :
    dropLastZeros (ns ++ List.replicate k 0) = dropLastZeros ns := by
  induction k with
  | zero => simp
  | succ k ih =>
    rw [List.replicate_succ', ← List.append_assoc, dropLastZeros, List.rdropWhile_concat_pos _ _ _ rfl]
    exact ih

theorem padTo_dropLastZeros {n : Nat} {ns : List Nat} (fits : ns.length ≤ n) :
    padTo n (dropLastZeros ns) = padTo n ns := by
  obtain ⟨k, shape⟩ := exists_replicate ns
  have lengths : ns.length = (dropLastZeros ns).length + k := by
    conv_lhs => rw [shape]
    simp
  have sum : k + (n - ns.length) = n - (dropLastZeros ns).length := by omega
  rw [padTo, padTo, ← sum, ← List.replicate_append_replicate, ← List.append_assoc, ← shape]

theorem padTo_eq_iff {n : Nat} {ms ns : List Nat} (left : ms.length ≤ n) (right : ns.length ≤ n) :
    padTo n ms = padTo n ns ↔ dropLastZeros ms = dropLastZeros ns := by
  constructor
  next =>
    intro same
    rw [← dropLastZeros_append_replicate ms (n - ms.length),
      ← dropLastZeros_append_replicate ns (n - ns.length)]
    exact congrArg dropLastZeros same
  next =>
    intro same
    rw [← padTo_dropLastZeros left, ← padTo_dropLastZeros right, same]

/-- Digits of a number without sign that fits into 64 bits, possibly with zeros in front. -/
structure IsDecimal (part : List Char) : Prop where
  some : part ≠ []
  digits : ∀ c ∈ part, c.isDigit = true
  bounded : Text.ofDigits part < Nat.pow 2 64

instance (part : List Char) : Decidable (IsDecimal part) :=
  decidable_of_iff
    ((!part.isEmpty && part.all Char.isDigit && decide (Text.ofDigits part < Nat.pow 2 64)) = true)
    (by
      simp only [Bool.and_eq_true, Bool.not_eq_true', List.isEmpty_eq_false_iff, List.all_eq_true,
        decide_eq_true_eq]
      exact ⟨fun h => ⟨h.1.1, h.1.2, h.2⟩, fun h => ⟨⟨h.some, h.digits⟩, h.bounded⟩⟩)

-- What stands between the dots, without the blanks around the whole.
def parts (version : String) : List (List Char) :=
  Text.split '.' (Text.trimChars Text.isBlank version.toList)

def IsDotted (version : String) : Prop :=
  ∀ part ∈ parts version, IsDecimal part

instance (version : String) : Decidable (IsDotted version) :=
  inferInstanceAs (Decidable (∀ part ∈ parts version, IsDecimal part))

def decimals (version : String) : List Nat :=
  (parts version).map Text.ofDigits

/-- The parts without zeros in front, up to the last one that has any other digit. -/
def significant (version : String) : List (List Char) :=
  ((parts version).map Text.dropZeros).rdropWhile List.isEmpty

theorem segments_eq (version : String) :
    segments version = (parts version).map String.ofList := by
  rw [segments, Text.splitText, Text.trim, String.toList_ofList, parts]

theorem number?_ofList {part : List Char} (h : IsDecimal part) :
    number? (String.ofList part) = some (Text.ofDigits part) := by
  have natural : Text.natural? part = some (Text.ofDigits part) := by
    have read : Text.digits? part = some (Text.ofDigits part) :=
      if_pos ⟨h.some, List.all_eq_true.2 h.digits⟩
    cases part with
    | nil => exact absurd rfl h.some
    | cons c cs =>
      -- A digit is no sign.
      have other : c ≠ '+' := by
        rintro rfl
        exact absurd (h.digits '+' List.mem_cons_self) (by decide)
      rw [Text.natural?]
      next => exact read
      next =>
        intro _ same
        exact other (List.cons.inj same).1
  have bound : Nat.pow 2 64 = 18446744073709551616 := by decide
  have fits : Text.word64.holds (Text.ofDigits part : Int) = true := by
    have bounded := h.bounded
    rw [Text.word64_holds_iff]
    omega
  have read : Text.word64.read? part = some (Text.ofDigits part : Int) := by
    rw [Text.Width.read?]
    simp only [Text.word64, natural, Option.map_some]
    exact Option.filter_some_pos fits
  rw [number?, String.toList_ofList, read, Option.map_some, Int.toNat_natCast]

theorem IsDotted.isNumeric {a : String} (h : IsDotted a) : IsNumeric a := by
  intro segment member
  rw [segments_eq] at member
  obtain ⟨part, inside, rfl⟩ := List.mem_map.1 member
  rw [number?_ofList (h part inside)]
  rfl

theorem IsDotted.numbers_eq {a : String} (h : IsDotted a) : numbers (segments a) = decimals a := by
  rw [segments_eq, numbers, decimals, List.map_map]
  refine List.map_congr_left fun part inside => ?_
  simp [number?_ofList (h part inside)]

section Order

variable {a b c : String}

theorem length_segments (a : String) : (segments a).length = (decimals a).length := by
  rw [segments_eq, decimals, List.length_map, List.length_map]

theorem compare_eq_decimals (ha : IsDotted a) (hb : IsDotted b) {n : Nat}
    (left : (decimals a).length ≤ n) (right : (decimals b).length ≤ n) :
    Version.compare a b =
      List.compareLex compare (padTo n (decimals a)) (padTo n (decimals b)) := by
  rw [← length_segments] at left right
  rw [compare_eq_compareLex ha.isNumeric hb.isNumeric left right, ha.numbers_eq, hb.numbers_eq]

theorem isLE_total (a b : String) :
    (Version.compare a b).isLE = true ∨ (Version.compare b a).isLE = true := by
  rw [compare_swap b a]
  cases Version.compare a b <;> simp

theorem significant_eq (h : IsDotted a) :
    significant a = (dropLastZeros (decimals a)).map Text.digitsOf := by
  have digits : (parts a).map Text.dropZeros = (decimals a).map Text.digitsOf := by
    rw [decimals, List.map_map]
    exact List.map_congr_left fun part member => (Text.digitsOf_ofDigits (h part member).digits).symm
  have empty : List.isEmpty ∘ Text.digitsOf = (· == 0) := funext Text.isEmpty_digitsOf
  rw [significant, digits, dropLastZeros, List.rdropWhile, List.rdropWhile, ← List.map_reverse,
    List.dropWhile_map, empty, List.map_reverse]

theorem compare_eq_eq_iff (ha : IsDotted a) (hb : IsDotted b) :
    Version.compare a b = .eq ↔ significant a = significant b := by
  have left := Nat.le_max_left (decimals a).length (decimals b).length
  have right := Nat.le_max_right (decimals a).length (decimals b).length
  have injective : Function.Injective Text.digitsOf :=
    Function.LeftInverse.injective Text.ofDigits_digitsOf
  rw [compare_eq_decimals ha hb left right, Std.LawfulEqCmp.compare_eq_iff_eq,
    padTo_eq_iff left right, significant_eq ha, significant_eq hb, List.map_inj_right injective]

end Order

theorem ne_lt_iff_isLE {a b : String} :
    Version.compare a b ≠ .lt ↔ (Version.compare b a).isLE = true := by
  rw [compare_ne_lt_iff, Ordering.isLE_iff_ne_gt]

theorem max_cases (a b : String) :
    Version.max a b = a ∧ Version.compare a b = .gt ∨
      Version.max a b = b ∧ (Version.compare a b).isLE = true := by
  unfold Version.max
  cases Version.compare a b <;> simp

theorem foldl_max {first : String} {rest : List String}
    (dotted : ∀ v ∈ first :: rest, IsDotted v) :
    rest.foldl Version.max first ∈ first :: rest ∧
      ∀ v ∈ first :: rest, (Version.compare v (rest.foldl Version.max first)).isLE = true := by
  induction rest generalizing first with
  | nil => simp [compare_self]
  | cons next rest ih =>
    rw [List.forall_mem_cons, List.forall_mem_cons] at dotted
    obtain ⟨hfirst, hnext, hrest⟩ := dotted
    rw [List.foldl_cons]
    rcases max_cases first next with ⟨greater, above⟩ | ⟨greater, below⟩
    all_goals rw [greater]
    next =>
      obtain ⟨among, least⟩ := ih (List.forall_mem_cons.2 ⟨hfirst, hrest⟩)
      have early : (Version.compare next first).isLE = true := by
        rw [compare_swap, above]
        rfl
      have late := isLE_trans hnext.isNumeric hfirst.isNumeric
        (List.forall_mem_cons.2 ⟨hfirst, hrest⟩ _ among).isNumeric early (least first List.mem_cons_self)
      rw [List.forall_mem_cons] at least
      refine ⟨?_, List.forall_mem_cons.2 ⟨least.1, List.forall_mem_cons.2 ⟨late, least.2⟩⟩⟩
      rcases List.mem_cons.1 among with same | later
      next =>
        rw [same]
        exact List.mem_cons_self
      next => exact List.mem_cons_of_mem _ (List.mem_cons_of_mem _ later)
    next =>
      obtain ⟨among, least⟩ := ih (List.forall_mem_cons.2 ⟨hnext, hrest⟩)
      have early := isLE_trans hfirst.isNumeric hnext.isNumeric
        (List.forall_mem_cons.2 ⟨hnext, hrest⟩ _ among).isNumeric below (least next List.mem_cons_self)
      exact ⟨List.mem_cons_of_mem _ among, List.forall_mem_cons.2 ⟨early, least⟩⟩

def positions (a b : String) : Nat :=
  Nat.max (decimals a).length (decimals b).length

end Version

open Session

theorem Ledger.perform_version {σ : Type} {engine : Engine σ} {observers : List Observer}
    {appliesTo : String} {s t : Session σ} {rows : List Row}
    (replied : s.execute engine observers ⟨versionsText, [.text appliesTo], none⟩ = (.ok rows, t)) :
    perform engine observers (Ledger.version appliesTo) s =
      (.ok (Version.latest (rows.filterMap fun row => row.text? "version")), t) := by
  have executed : perform engine observers (Action.execute versionsText [.text appliesTo] none) s =
      (.ok rows, t) := by
    rw [perform_execute, replied]
    rfl
  rw [Ledger.version, perform_bind_ok executed, perform_pure]

/-- Versions of decimal numbers are compared as their lists of numbers are, where the shorter one
has zeros at its end. That is a total preorder, in which only blanks around them, zeros in front of
a number and numbers of zero at the end make no difference. The version of the ledger is not below
any of its rows. -/
theorem Version.compares_as_numbers {σ : Type} (engine : Engine σ) (observers : List Observer) :
    (∀ a b, IsDotted a → IsDotted b →
      Version.compare a b = List.compareLex compare (padTo (positions a b) (decimals a))
          (padTo (positions a b) (decimals b)) ∧
        Version.compare a b = (Version.compare b a).swap ∧
        ((Version.compare a b).isLE = true ∨ (Version.compare b a).isLE = true) ∧
        (Version.compare a b = .eq ↔ significant a = significant b)) ∧
      (∀ a b c, IsDotted a → IsDotted b → IsDotted c → (Version.compare a b).isLE = true →
        (Version.compare b c).isLE = true → (Version.compare a c).isLE = true) ∧
      ∀ appliesTo s rows t,
        s.execute engine observers ⟨Ledger.versionsText, [.text appliesTo], none⟩ = (.ok rows, t) →
        (∀ row ∈ rows, ∀ v ∈ row.text? "version", IsDotted v) →
        ∃ current, perform engine observers (Ledger.version appliesTo) s = (.ok current, t) ∧
          (∀ row ∈ rows, ∀ v ∈ row.text? "version", Version.compare current v ≠ .lt) ∧
          ((∃ row ∈ rows, row.text? "version" = some current) ∨
            (∀ row ∈ rows, row.text? "version" = none) ∧ current = initial) := by
  refine ⟨fun a b ha hb => ⟨?_, compare_swap a b, isLE_total a b, compare_eq_eq_iff ha hb⟩,
    fun a b c ha hb hc => isLE_trans ha.isNumeric hb.isNumeric hc.isNumeric, fun appliesTo s rows t replied dotted => ?_⟩
  next => exact compare_eq_decimals ha hb (Nat.le_max_left _ _) (Nat.le_max_right _ _)
  next =>
    refine ⟨_, Ledger.perform_version replied, ?_⟩
    cases versions : rows.filterMap fun row => row.text? "version" with
    | nil =>
      have none : ∀ row ∈ rows, row.text? "version" = none := List.filterMap_eq_nil_iff.1 versions
      refine ⟨fun row member v there => ?_, .inr ⟨none, rfl⟩⟩
      rw [none row member] at there
      cases there
    | cons first rest =>
      have all : ∀ v ∈ first :: rest, IsDotted v := by
        intro v among
        rw [← versions] at among
        obtain ⟨row, member, text⟩ := List.mem_filterMap.1 among
        exact dotted row member v text
      obtain ⟨among, least⟩ := foldl_max all
      refine ⟨fun row member v text => ne_lt_iff_isLE.2 (least v ?_), .inl ?_⟩
      next =>
        rw [← versions]
        exact List.mem_filterMap.2 ⟨row, member, text⟩
      next =>
        rw [← versions] at among
        exact List.mem_filterMap.1 among

def releaseRows : List Row :=
  [[("version", .text "1.9")], [("VERSION", .text " 01.10.0 ")], [("version", .float (.ofInt 1))]]

theorem Version.compares_as_numbers_releases :
    (IsDotted " 01.10" ∧ IsDotted "1.9.18446744073709551615" ∧
      Version.compare " 01.10" "1.9.18446744073709551615" =
        List.compareLex compare [1, 10, 0] [1, 9, 18446744073709551615]) ∧
      (Version.compare " 01.10" "1.10.00\n" = .eq ↔
        significant " 01.10" = significant "1.10.00\n") ∧
      (Version.compare "1.9" "01.10").isLE = true ∧ (Version.compare "01.10" "2").isLE = true ∧
      (Version.compare "1.9" "2").isLE = true ∧
      ∃ current t, perform Script.engine [] (Ledger.version "Products")
          (Session.start ⟨[.ok releaseRows], fun _ => none⟩) = (.ok current, t) ∧
        ∀ row ∈ releaseRows, ∀ v ∈ row.text? "version", Version.compare current v ≠ .lt := by
  obtain ⟨pairs, trans, latest⟩ := Version.compares_as_numbers Script.engine []
  have first : IsDotted " 01.10" := by decide +kernel
  have second : IsDotted "1.9.18446744073709551615" := by decide +kernel
  have third : IsDotted "1.10.00\n" := by decide +kernel
  have dotted : ∀ row ∈ releaseRows, ∀ v ∈ row.text? "version", IsDotted v := by decide +kernel
  obtain ⟨current, performed, least, -⟩ := latest "Products"
    (Session.start ⟨[.ok releaseRows], fun _ => none⟩) releaseRows _ rfl dotted
  have nine : IsDotted "1.9" := by decide +kernel
  have ten : IsDotted "01.10" := by decide +kernel
  have two : IsDotted "2" := by decide +kernel
  have below : (Version.compare "1.9" "01.10").isLE = true := by
    rw [(pairs _ _ nine ten).1]
    decide +kernel
  have above : (Version.compare "01.10" "2").isLE = true := by
    rw [(pairs _ _ ten two).1]
    decide +kernel
  exact ⟨⟨first, second, (pairs _ _ first second).1.trans (by decide +kernel)⟩,
    (pairs _ _ first third).2.2.2, below, above,
    trans _ _ _ nine ten two below above, current, _, performed, least⟩

end OracleSql
