import Mathlib.Algebra.Group.Nat.Even
import OracleSql.Proofs.Literal.Alike
import OracleSql.Proofs.Literal.Stored

set_option autoImplicit false

namespace OracleSql.Literal

open Sql

/-- A stretch of quotes that no further quote continues, on either side. -/
structure QuoteRun (cs before : List Char) (width : Nat) (after : List Char) : Prop where
  parts : cs = before ++ List.replicate width '\'' ++ after
  starts : before.getLast? ≠ some '\''
  ends : after.head? ≠ some '\''

theorem hasEvenRuns_append_of_head {b : List Char} (h : b.head? ≠ some '\'') (odd : Bool)
    (a : List Char) : hasEvenRuns odd (a ++ b) = (hasEvenRuns odd a && hasEvenRuns false b) := by
  induction a generalizing odd with
  | nil =>
    cases b with
    | nil => cases odd <;> rfl
    | cons c cs =>
      have other : c ≠ '\'' := by simpa using h
      simp [hasEvenRuns, other]
  | cons c cs ih =>
    by_cases quote : c = '\''
    next => simp [hasEvenRuns, quote, ih]
    next => simp [hasEvenRuns, quote, ih, Bool.and_assoc]

theorem hasEvenRuns_append_of_last {a : List Char} (h : a.getLast? ≠ some '\'') (b : List Char) :
    hasEvenRuns false (a ++ b) = (hasEvenRuns false a && hasEvenRuns false b) := by
  rcases List.eq_nil_or_concat a with rfl | ⟨front, d, rfl⟩
  next => rfl
  next =>
    -- The last character ends whatever run there was, so it is taken to what follows.
    have other : d ≠ '\'' := by simpa using h
    have ends (rest : List Char) : (d :: rest).head? ≠ some '\'' := by simpa using other
    rw [List.concat_eq_append, List.append_assoc, List.singleton_append,
      hasEvenRuns_append_of_head (ends b), hasEvenRuns_append_of_head (ends [])]
    simp [hasEvenRuns, other]

theorem hasEvenRuns_replicate (odd : Bool) (width : Nat) :
    hasEvenRuns odd (List.replicate width '\'') = true ↔ (Even width ↔ odd = false) := by
  induction width generalizing odd with
  | zero => cases odd <;> simp [hasEvenRuns]
  | succ n ih => cases odd <;> simp [List.replicate_succ, hasEvenRuns, ih, Nat.even_add_one]

theorem QuoteRun.even {cs before after : List Char} {width : Nat}
    (run : QuoteRun cs before width after) (h : hasEvenRuns false cs = true) : Even width := by
  rw [run.parts, List.append_assoc, hasEvenRuns_append_of_last run.starts,
    hasEvenRuns_append_of_head run.ends, Bool.and_eq_true, Bool.and_eq_true] at h
  simpa [hasEvenRuns_replicate] using h.2.1

theorem hasEvenRuns_of_runs {cs : List Char} (width : Nat)
    (h : ∀ before n after, QuoteRun (List.replicate width '\'' ++ cs) before n after → Even n) :
    hasEvenRuns (!decide (Even width)) cs = true := by
  -- The quotes in front are the run that has been read so far.
  induction cs generalizing width with
  | nil =>
    have even := h [] width [] ⟨by simp, by simp, by simp⟩
    simp [hasEvenRuns, even]
  | cons c cs ih =>
    by_cases quote : c = '\''
    next =>
      have rest := ih (width + 1) fun before n after run =>
        h before n after ⟨by simpa [List.replicate_succ', quote] using run.parts, run.starts, run.ends⟩
      have flips : (!decide (Even (width + 1))) = decide (Even width) := by
        simp only [Nat.even_add_one, decide_not, Bool.not_not]
      rw [flips] at rest
      simpa [hasEvenRuns, quote] using rest
    next =>
      have even := h [] width (c :: cs) ⟨by simp, by simp, by simpa using quote⟩
      have rest := ih 0 fun before n after run => by
        refine h (List.replicate width '\'' ++ c :: before) n after ⟨?_, ?_, run.ends⟩
        next =>
          have parts : cs = before ++ List.replicate n '\'' ++ after := by simpa using run.parts
          simp [parts]
        next =>
          cases last : before.getLast? with
          | none => simpa [List.getLast?_append, List.getLast?_cons, last] using quote
          | some d =>
            have starts := run.starts
            rw [last] at starts
            simpa [List.getLast?_append, List.getLast?_cons, last] using starts
      simpa [hasEvenRuns, quote, even] using rest

theorem hasEvenRuns_iff_runs {cs : List Char} : hasEvenRuns false cs = true ↔
    ∀ before width after, QuoteRun cs before width after → Even width := by
  constructor
  next => exact fun h before width after run => run.even h
  next =>
    intro h
    simpa using hasEvenRuns_of_runs 0 (by simpa using h)

def IsLiteral (sql : String) : Prop :=
  ∃ content, scan sql.toList = some [.quoted .literal content]

theorem hasEvenRuns_doubled (content : List Char) :
    hasEvenRuns false (doubled .literal content) = true := by
  induction content with
  | nil => rfl
  | cons c cs ih =>
    have split : doubled .literal (c :: cs) = doubled .literal [c] ++ doubled .literal cs :=
      doubled_append .literal [c] cs
    by_cases quote : c = Quoted.literal.mark
    next =>
      rw [split, quote, doubled_mark]
      simpa [hasEvenRuns, Quoted.mark] using ih
    next =>
      rw [split, doubled_other quote]
      simpa [hasEvenRuns, show c ≠ '\'' from quote] using ih

theorem isLiteral_iff {sql : String} : IsLiteral sql ↔
    ∃ body, sql.toList = '\'' :: body ++ ['\''] ∧ hasEvenRuns false body = true := by
  constructor
  next =>
    rintro ⟨content, read⟩
    have written := (scan_eq_some_iff.1 read).text_eq
    refine ⟨doubled .literal content, ?_, hasEvenRuns_doubled content⟩
    simpa [text, Token.text, Quoted.mark] using written.symm
  next =>
    rintro ⟨body, parts, even⟩
    exact ⟨undouble body, by rw [parts, scan_literal even]⟩

theorem isLiteral_enclosed_iff {s : String} : IsLiteral ("'" ++ s ++ "'") ↔ EvenRuns s := by
  have parts : ("'" ++ s ++ "'").toList = '\'' :: s.toList ++ ['\''] := by simp
  rw [isLiteral_iff, parts]
  constructor
  next =>
    rintro ⟨body, same, even⟩
    have inner : s.toList = body := by simpa using same
    rwa [EvenRuns, inner]
  next => exact fun even => ⟨s.toList, rfl, even⟩

theorem isClosed_iff {s : String} : isClosed s.toList = true ↔ IsLiteral s := by
  rw [isLiteral_iff]
  constructor
  next => exact eq_of_isClosed
  next =>
    rintro ⟨body, parts, even⟩
    simpa [isClosed, inner?, parts] using even

theorem isLiteral_escapeText (s : String) : IsLiteral (escapeText s) :=
  exists_scan_escapeText s

theorem escapeText_eq_self_iff {s : String} : escapeText s = s ↔ IsLiteral s := by
  constructor
  next => exact fun same => same ▸ isLiteral_escapeText s
  next => exact fun literal => if_pos (isClosed_iff.2 literal)

theorem scan_escapeText {s : String} (other : ¬IsLiteral s) :
    scan (escapeText s).toList = some [.quoted .literal (undouble (fold s.toList))] := by
  have escaped : escapeText s = "'" ++ escapeInner s ++ "'" := if_neg (mt isClosed_iff.1 other)
  rw [escaped, scan_enclosed (evenRuns_escapeInner s), escapeInner, String.toList_ofList,
    undouble_normalize]

/-- Between its outer quotes escaped text has no quote that stands alone, so the engine reads one
literal. A text that is one already stays as it is, and escaping twice changes nothing. -/
theorem escapeText_complete (s : String) :
    2 ≤ (escapeText s).length ∧
      (∃ body, (escapeText s).toList = '\'' :: body ++ ['\''] ∧
        ∀ before width after, QuoteRun body before width after → Even width) ∧
      IsLiteral (escapeText s) ∧
      (escapeText s = s ↔ IsLiteral s) ∧
      (¬IsLiteral s →
        scan (escapeText s).toList = some [.quoted .literal (undouble (fold s.toList))]) ∧
      escapeText (escapeText s) = escapeText s := by
  have literal := isLiteral_escapeText s
  obtain ⟨body, parts, even⟩ := isLiteral_iff.1 literal
  have long : 2 ≤ (escapeText s).length := by
    rw [← String.length_toList, parts]
    simp
  exact ⟨long, ⟨body, parts, hasEvenRuns_iff_runs.1 even⟩, literal, escapeText_eq_self_iff,
    scan_escapeText, escapeText_eq_self_iff.2 literal⟩

end OracleSql.Literal
