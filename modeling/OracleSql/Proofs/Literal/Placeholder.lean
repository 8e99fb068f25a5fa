import OracleSql.Proofs.Literal.Complete

set_option autoImplicit false

namespace OracleSql.Literal

def parts (inLiteral : Bool) : List Char → List (List Char)
  | [] => [[]]
  | c :: cs =>
      if c = '\'' then (parts (!inLiteral) cs).modifyHead (c :: ·)
      else if c = '?' ∧ ¬inLiteral then [] :: parts inLiteral cs
      else (parts inLiteral cs).modifyHead (c :: ·)

def fillGaps (offset : Int) : List (List Char) → List Value → List Char
  | [], _ => []
  | [part], _ => part
  | part :: next :: rest, value :: params =>
      part ++ (escape offset value).toList ++ fillGaps offset (next :: rest) params
  | part :: next :: rest, [] => part ++ '?' :: fillGaps offset (next :: rest) []

def mergeParts (offset : Int) : List (List Char) → List Value → List (List Char)
  | part :: next :: rest, value :: params =>
      mergeParts offset ((part ++ (escape offset value).toList ++ next) :: rest) params
  | parts, _ => parts

variable {offset : Int}

theorem parts_ne_nil (inLiteral : Bool) (cs : List Char) : parts inLiteral cs ≠ [] := by
  induction cs generalizing inLiteral with
  | nil => exact List.cons_ne_nil _ _
  | cons c cs ih =>
    unfold parts
    split
    next => simpa using ih (!inLiteral)
    next =>
      split
      next => exact List.cons_ne_nil _ _
      next => simpa using ih inLiteral

theorem exists_parts (inLiteral : Bool) (cs : List Char) :
    ∃ part rest, parts inLiteral cs = part :: rest :=
  List.exists_cons_of_ne_nil (parts_ne_nil inLiteral cs)

@[simp] theorem mergeParts_nil (ps : List (List Char)) : mergeParts offset ps [] = ps := by
  unfold mergeParts
  split
  next => contradiction
  next => rfl

theorem fillGaps_append (before part : List Char) (rest : List (List Char)) (params : List Value) :
    fillGaps offset ((before ++ part) :: rest) params =
      before ++ fillGaps offset (part :: rest) params := by
  cases rest with
  | nil => rfl
  | cons next rest => cases params <;> simp [fillGaps]

theorem mergeParts_append (before part : List Char) (rest : List (List Char)) (params : List Value) :
    mergeParts offset ((before ++ part) :: rest) params =
      (mergeParts offset (part :: rest) params).modifyHead (before ++ ·) := by
  induction params generalizing part rest with
  | nil => simp
  | cons value params ih =>
    cases rest with
    | nil => rfl
    | cons next rest => simpa [mergeParts] using ih (part ++ (escape offset value).toList ++ next) rest

theorem fillGaps_mergeParts (ps : List (List Char)) (params later : List Value) :
    fillGaps offset (mergeParts offset ps params) later = fillGaps offset ps (params ++ later) := by
  induction params generalizing ps with
  | nil => simp
  | cons value params ih =>
    match ps with
    | [] => rfl
    | [part] => rfl
    | part :: next :: rest =>
      rw [mergeParts, ih, fillGaps_append, List.cons_append, fillGaps]

theorem tail_mergeParts (part : List Char) (rest : List (List Char)) (params : List Value) :
    (mergeParts offset (part :: rest) params).tail = rest.drop params.length := by
  induction params generalizing part rest with
  | nil => simp
  | cons value params ih =>
    cases rest with
    | nil => rfl
    | cons next rest => exact ih _ rest

theorem fillChars_eq_fillGaps (inLiteral : Bool) (cs : List Char) (params : List Value) :
    fillChars offset inLiteral cs params = fillGaps offset (parts inLiteral cs) params := by
  induction cs generalizing inLiteral params with
  | nil => rfl
  | cons c cs ih =>
    have shown (inside : Bool) :
        c :: fillChars offset inside cs params =
          fillGaps offset ((parts inside cs).modifyHead (c :: ·)) params := by
      obtain ⟨part, rest, split⟩ := exists_parts inside cs
      rw [ih, split]
      exact (fillGaps_append [c] part rest params).symm
    unfold fillChars parts
    split
    next => exact shown _
    next =>
      split
      next hole =>
        obtain ⟨part, rest, split⟩ := exists_parts inLiteral cs
        cases params with
        | nil => simp [fillGaps, ih, split, hole.1]
        | cons value params => simp [fillGaps, ih, split]
      next => exact shown _

/-- Each literal is closed, and no question mark stands outside of one. -/
def isSealed (inLiteral : Bool) : List Char → Bool
  | [] => !inLiteral
  | c :: cs =>
      if c = '\'' then isSealed (!inLiteral) cs
      else (inLiteral || c != '?') && isSealed inLiteral cs

theorem isSealed_append {inLiteral : Bool} {a b : List Char} (ha : isSealed inLiteral a = true)
    (hb : isSealed false b = true) : isSealed inLiteral (a ++ b) = true := by
  induction a generalizing inLiteral with
  | nil =>
    have outside : inLiteral = false := by simpa [isSealed] using ha
    simpa [outside] using hb
  | cons c cs ih =>
    by_cases quote : c = '\''
    next =>
      simp only [isSealed, quote, if_true] at ha
      simpa [isSealed, quote] using ih ha
    next =>
      simp only [isSealed, quote, if_false, Bool.and_eq_true] at ha
      simpa only [List.cons_append, isSealed, quote, if_false, Bool.and_eq_true] using
        ⟨ha.1, ih ha.2⟩

theorem parts_append {inLiteral : Bool} {cs : List Char} (h : isSealed inLiteral cs = true)
    (rest : List Char) : parts inLiteral (cs ++ rest) = (parts false rest).modifyHead (cs ++ ·) := by
  induction cs generalizing inLiteral with
  | nil =>
    have outside : inLiteral = false := by simpa [isSealed] using h
    obtain ⟨part, others, split⟩ := exists_parts false rest
    simp [outside, split]
  | cons c cs ih =>
    have shown {inside : Bool} (later : isSealed inside cs = true) :
        (parts inside (cs ++ rest)).modifyHead (c :: ·) =
          (parts false rest).modifyHead (c :: cs ++ ·) := by
      rw [ih later, List.modifyHead_modifyHead]
      rfl
    rw [List.cons_append, parts]
    by_cases quote : c = '\''
    next =>
      simp only [isSealed, quote, if_true] at h
      rw [if_pos quote]
      exact shown h
    next =>
      simp only [isSealed, quote, if_false, Bool.and_eq_true] at h
      have covered : ¬(c = '?' ∧ ¬inLiteral) := by
        rintro ⟨rfl, outside⟩
        simp [outside] at h
      rw [if_neg quote, if_neg covered]
      exact shown h.2

def Sealed (s : String) : Prop :=
  isSealed false s.toList = true

instance (s : String) : Decidable (Sealed s) :=
  inferInstanceAs (Decidable (isSealed false s.toList = true))

namespace Sealed

theorem append {a b : String} (ha : Sealed a) (hb : Sealed b) : Sealed (a ++ b) := by
  unfold Sealed
  rw [String.toList_append]
  exact isSealed_append ha hb

theorem intercalate {separator : String} (separates : Sealed separator) {items : List String}
    (h : ∀ s ∈ items, Sealed s) : Sealed (separator.intercalate items) :=
  intercalate_induction (by decide) (fun first rest => (first.append separates).append rest) h

end Sealed

theorem isSealed_closed {odd : Bool} {body : List Char} (h : hasEvenRuns odd body = true) :
    isSealed (!odd) (body ++ ['\'']) = true := by
  -- In an odd run of quotes the literal is closed for the moment.
  induction body generalizing odd with
  | nil =>
    have even : odd = false := by simpa [hasEvenRuns] using h
    rw [even]
    rfl
  | cons c cs ih =>
    by_cases quote : c = '\''
    next =>
      simp only [hasEvenRuns, quote, if_true] at h
      simpa [isSealed, quote] using ih h
    next =>
      simp only [hasEvenRuns, quote, if_false, Bool.and_eq_true, Bool.not_eq_true'] at h
      simpa [isSealed, quote, h.1] using ih h.2

theorem IsLiteral.sealed {s : String} (h : IsLiteral s) : Sealed s := by
  obtain ⟨body, whole, even⟩ := isLiteral_iff.1 h
  have opened : isSealed false ('\'' :: (body ++ ['\''])) = isSealed true (body ++ ['\'']) := rfl
  unfold Sealed
  rw [whole, List.cons_append, opened]
  exact isSealed_closed even

theorem sealed_of_consists {s : String} (h : Consists isNumeral s) : Sealed s := by
  unfold Sealed Consists at *
  generalize s.toList = cs at h
  induction cs with
  | nil => rfl
  | cons c cs ih =>
    have other {d : Char} (no : isNumeral d = false) : c ≠ d := by
      rintro rfl
      rw [h c List.mem_cons_self] at no
      cases no
    have rest := ih fun d member => h d (List.mem_cons_of_mem c member)
    simp [isSealed, other (d := '\'') (by decide), other (d := '?') (by decide), rest]

theorem sealed_ofInstant (t : Instant) (offset : Int) : Sealed (ofInstant t offset) := by
  have literal := isLiteral_enclosed_iff.2 (evenRuns_of_bare (bare_timestampText t offset))
  have start : Sealed "TO_TIMESTAMP_TZ(" := by decide
  have format : Sealed ", 'YYYY-MM-DD HH24:MI:SS.FF3TZH:TZM')" := by decide +kernel
  rw [ofInstant_eq]
  exact (start.append literal.sealed).append format

theorem sealed_blob (bytes : List UInt8) : Sealed ("HEXTORAW('" ++ Value.hex bytes ++ "')") := by
  have literal := isLiteral_enclosed_iff.2 (evenRuns_of_bare (bare_hex bytes))
  have start : Sealed "HEXTORAW(" := by decide
  rw [blob_eq]
  exact (start.append literal.sealed).append (by decide)

mutual

theorem sealed_escape : ∀ v : Value, Sealed (escape offset v)
  | .null => (by decide : Sealed "NULL")
  | .bool b => (by cases b <;> decide : Sealed (if b then "1" else "0"))
  | .int n => sealed_of_consists (consists_toString_int n)
  | .float x => by
      cases x with
      | finite negative code => exact sealed_of_consists (Double.consists_finiteText _ _ _)
      | nan | infinite => exact sealed_escape .null
  | .text s => (isLiteral_escapeText s).sealed
  | .instant t => sealed_ofInstant t offset
  | .blob bytes => sealed_blob bytes
  | .array items => by
      unfold escape ofValue
      split
      next => exact Sealed.intercalate (by decide) (sealed_ofValues items)
      next => exact (isLiteral_escapeText _).sealed
  | .object _ => (isLiteral_escapeText _).sealed

theorem sealed_ofValues : ∀ items : List Value, ∀ s ∈ ofValues offset false items, Sealed s
  | [] => by simp [ofValues]
  | item :: rest => by
      rw [ofValues, List.forall_mem_cons]
      exact ⟨sealed_escape item, sealed_ofValues rest⟩

end

theorem parts_fillChars (inLiteral : Bool) (cs : List Char) (params : List Value) :
    parts inLiteral (fillChars offset inLiteral cs params) =
      mergeParts offset (parts inLiteral cs) params := by
  induction cs generalizing inLiteral params with
  | nil => cases params <;> rfl
  | cons c cs ih =>
    have shown (inside : Bool) :
        (parts inside (fillChars offset inside cs params)).modifyHead (c :: ·) =
        mergeParts offset ((parts inside cs).modifyHead (c :: ·)) params := by
      obtain ⟨part, rest, split⟩ := exists_parts inside cs
      rw [ih, split]
      exact (mergeParts_append [c] part rest params).symm
    by_cases quote : c = '\''
    next =>
      simp only [fillChars, parts, quote, if_true]
      exact quote ▸ shown _
    next =>
      by_cases hole : c = '?' ∧ ¬inLiteral
      next =>
        cases params with
        | nil => rw [fillChars_nil, mergeParts_nil]
        | cons value params =>
          -- What is filled in leads back to where it started, and the next part follows it.
          obtain ⟨part, rest, split⟩ := exists_parts false cs
          have outside : inLiteral = false := by simpa using hole.2
          subst outside
          simp only [fillChars, parts, quote, if_false, if_pos hole]
          rw [parts_append (sealed_escape value), ih, split, mergeParts, List.nil_append,
            mergeParts_append]
      next =>
        simp only [fillChars, parts, quote, if_false, if_neg hole]
        exact shown _

/-- Parameters given in stages are parameters given at once, and behind each placeholder that is
left stands what stood there before. -/
theorem prepare_prepare (offset : Int) (sql : String) (ps qs : List Value) :
    prepare offset (prepare offset sql ps) qs = prepare offset sql (ps ++ qs) ∧
      (parts false (prepare offset sql ps).toList).tail =
        (parts false sql.toList).tail.drop ps.length := by
  have merged : parts false (prepare offset sql ps).toList =
      mergeParts offset (parts false sql.toList) ps := by
    rw [prepare, String.toList_ofList, parts_fillChars]
  constructor
  next =>
    have filled : fillChars offset false (prepare offset sql ps).toList qs =
        fillChars offset false sql.toList (ps ++ qs) := by
      rw [fillChars_eq_fillGaps, merged, fillGaps_mergeParts, ← fillChars_eq_fillGaps]
    exact congrArg String.ofList filled
  next =>
    obtain ⟨part, rest, split⟩ := exists_parts false sql.toList
    rw [merged, split, tail_mergeParts, List.tail_cons]

example : prepare 0 "a=? AND b='?' AND c=?" [.text "it's ?"] = "a='it''s ?' AND b='?' AND c=?" := by
  decide +kernel

end OracleSql.Literal
