import OracleSql.Proofs.Query.Shape
import OracleSql.Proofs.Sql.Alike

set_option autoImplicit false

namespace OracleSql

open Sql

theorem scan_quoted (kind : Quoted) (content : List Char) :
    scan (kind.mark :: doubled kind content ++ [kind.mark]) = some [.quoted kind content] := by
  have written : scan (text [.quoted kind content]) = some [.quoted kind content] :=
    scan_text (by simp [Token.isProper]) (.singleton _)
  simpa [text, Token.text] using written

theorem scan_quote (name : String) :
    scan (Name.quote name).toList = some [.quoted .name name.toList] := by
  rw [Name.quote, String.toList_ofList]
  exact scan_quoted .name name.toList

theorem Sql.Alike.quote (a b : String) : Alike (Name.quote a) (Name.quote b) :=
  ⟨_, _, scan_quote a, scan_quote b, rfl⟩

namespace Literal

theorem scan_literal {body : List Char} (h : hasEvenRuns false body = true) :
    scan ('\'' :: body ++ ['\'']) = some [.quoted .literal (undouble body)] := by
  have read := scan_quoted .literal (undouble body)
  rw [doubled_undouble h] at read
  exact read

theorem scan_enclosed {s : String} (h : EvenRuns s) :
    scan ("'" ++ s ++ "'").toList = some [.quoted .literal (undouble s.toList)] := by
  have parts : ("'" ++ s ++ "'").toList = '\'' :: s.toList ++ ['\''] := by simp
  rw [parts]
  exact scan_literal h

theorem alike_enclosed {a b : String} (ha : EvenRuns a) (hb : EvenRuns b) :
    Alike ("'" ++ a ++ "'") ("'" ++ b ++ "'") :=
  ⟨_, _, scan_enclosed ha, scan_enclosed hb, rfl⟩

theorem exists_scan_escapeText (s : String) :
    ∃ content, scan (escapeText s).toList = some [.quoted .literal content] := by
  unfold escapeText
  split
  next closed =>
    obtain ⟨body, parts, even⟩ := eq_of_isClosed closed
    rw [parts]
    exact ⟨_, scan_literal even⟩
  next => exact ⟨_, scan_enclosed (evenRuns_escapeInner s)⟩

theorem alike_escapeText (a b : String) : Alike (escapeText a) (escapeText b) := by
  obtain ⟨content, ha⟩ := exists_scan_escapeText a
  obtain ⟨content', hb⟩ := exists_scan_escapeText b
  exact ⟨_, _, ha, hb, rfl⟩

def timestampText (t : Instant) (offset : Int) : String :=
  let l := t.atOffset offset
  let minutes := offset.natAbs / 60
  padded 4 l.date.year ++ "-" ++ padded 2 l.date.month ++ "-" ++ padded 2 l.date.day ++ " " ++
    padded 2 l.hour ++ ":" ++ padded 2 l.minute ++ ":" ++ padded 2 l.second ++ "." ++
    padded 3 (min (l.nanos / 1000000) 999 : Nat) ++ (if offset < 0 then "-" else "+") ++
    padded 2 (minutes / 60 : Nat) ++ ":" ++ padded 2 (minutes % 60 : Nat)

theorem enclosed_between (before s after : String) :
    before ++ ("'" ++ s ++ "'") ++ after = (before ++ "'") ++ s ++ ("'" ++ after) := by
  simp only [String.append_assoc]

theorem ofInstant_eq (t : Instant) (offset : Int) :
    ofInstant t offset =
      "TO_TIMESTAMP_TZ(" ++ ("'" ++ timestampText t offset ++ "'") ++
        ", 'YYYY-MM-DD HH24:MI:SS.FF3TZH:TZM')" := by
  have start : "TO_TIMESTAMP_TZ(" ++ "'" = "TO_TIMESTAMP_TZ('" := by decide +kernel
  have rest : "'" ++ ", 'YYYY-MM-DD HH24:MI:SS.FF3TZH:TZM')" =
      "', 'YYYY-MM-DD HH24:MI:SS.FF3TZH:TZM')" := by decide +kernel
  rw [enclosed_between, start, rest]
  unfold ofInstant timestampText
  simp only [String.append_assoc]

theorem bare_timestampText (t : Instant) (offset : Int) : Bare (timestampText t offset) := by
  have sign : Bare (if offset < 0 then "-" else "+") := Bare.ite (by decide) (by decide)
  unfold timestampText
  simp only [Bare.append_iff, bare_padded, sign, true_and, and_true]
  decide

theorem closed_ofInstant (t : Instant) (offset : Int) : Closed (ofInstant t offset) := by
  -- Both literals of the call are closed: the text of the instant holds no quote.
  have even := evenRuns_of_bare (bare_timestampText t offset)
  rw [ofInstant_eq, ← alike_self_iff]
  exact (alike_enclosed even even).around (by decide) (by decide)

theorem blob_eq (bytes : List UInt8) :
    "HEXTORAW('" ++ Value.hex bytes ++ "')" = "HEXTORAW(" ++ ("'" ++ Value.hex bytes ++ "'") ++ ")" := by
  have start : "HEXTORAW(" ++ "'" = "HEXTORAW('" := by decide +kernel
  have rest : "'" ++ ")" = "')" := by decide +kernel
  rw [enclosed_between, start, rest]

theorem closed_blob (bytes : List UInt8) : Closed ("HEXTORAW('" ++ Value.hex bytes ++ "')") := by
  have even := evenRuns_of_bare (bare_hex bytes)
  rw [blob_eq, ← alike_self_iff]
  exact (alike_enclosed even even).around (by decide) (by decide)

theorem isObject_shape (v : Value) : v.shape.isObject = v.isObject := by
  cases v <;> rfl

theorem any_isObject_shapeAll (items : List Value) :
    (Value.shapeAll items).any Value.isObject = items.any Value.isObject := by
  induction items with
  | nil => rfl
  | cons item rest ih => simp [Value.shapeAll, isObject_shape, ih]

variable (offset : Int)

mutual

theorem alike_escape : ∀ v : Value, Alike (escape offset v) (escape offset v.shape)
  | .null => (by decide : Closed "NULL").alike
  | .bool b => (by cases b <;> decide : Closed (if b then "1" else "0")).alike
  | .int n => (closing_of_bare (bare_toString_int n)).closed.alike
  | .float x => by
      have number := (closing_of_bare (Double.bare_plainText x)).closed
      have closed : Closed (escape offset (.float x)) := by
        unfold escape ofValue
        split
        next => exact number
        next => decide
      exact closed.alike
  | .text s => alike_escapeText s ""
  | .instant t => (closed_ofInstant t offset).alike
  | .blob bytes => (closed_blob bytes).alike
  | .array items => by
      -- Whether the items are listed or one document depends on the shape only.
      simp only [escape, Value.shape, ofValue, any_isObject_shapeAll]
      split
      next => exact Alike.intercalate (alike_ofValues items) (by decide)
      next => exact alike_escapeText _ _
  | .object entries => alike_escapeText _ _

theorem alike_ofValues : ∀ items : List Value,
    List.Forall₂ Alike (ofValues offset false items)
      (ofValues offset false (Value.shapeAll items))
  | [] => .nil
  | item :: rest => .cons (alike_escape item) (alike_ofValues rest)

end

end Literal

namespace Name

theorem isWordChar_mark : isWordChar '"' = false := by
  decide +kernel

theorem scan_quoteRuns {cs : List Char} (h : ∀ c ∈ cs, isWordChar c = true ∨ IsPlain c) :
    (scan (quoteRuns false cs)).isSome = true ∧
      ∀ content, (scanFrom (.inside .name content) (quoteRuns true cs)).isSome = true := by
  -- Inside of a word the closing quote is still to come.
  induction cs with
  | nil => exact ⟨rfl, fun _ => rfl⟩
  | cons c cs ih =>
    have rest := ih fun d member => h d (by simp [member])
    by_cases word : isWordChar c = true
    next =>
      have other : c ≠ '"' := fun same => by simp [same, isWordChar_mark] at word
      have inside (content : List Char) :
          (scanFrom (.inside .name content) (c :: quoteRuns true cs)).isSome = true := by
        simpa [scanFrom, Region.step, Quoted.mark, other] using rest.2 (content ++ [c])
      refine ⟨?_, ?_⟩
      next => simpa [quoteRuns, word, scan, scanFrom, Region.step, Region.enter, quoted?] using inside []
      next =>
        intro content
        simpa [quoteRuns, word] using inside content
    next =>
      have plain : IsPlain c := (h c (by simp)).resolve_left word
      -- What ends a word is no mark, so the name is complete before it.
      have other : c ≠ Quoted.name.mark := by
        rintro rfl
        simp [IsPlain] at plain
      have outside : (scan (c :: quoteRuns false cs)).isSome = true := by
        unfold IsPlain at plain
        simpa [scan, scanFrom, Region.step, Region.enter, plain] using rest.1
      refine ⟨by simpa [quoteRuns, word] using outside, ?_⟩
      intro content
      have closes := scanFrom_inside .name content [] (c :: quoteRuns false cs)
      rw [List.append_nil, scanFrom_ending .name content _ (by simpa using other)] at closes
      have read : (scanFrom (.inside .name content) (Quoted.name.mark :: c :: quoteRuns false cs)).isSome
          = true := by
        rw [show Quoted.name.mark :: c :: quoteRuns false cs =
          doubled .name [] ++ Quoted.name.mark :: c :: quoteRuns false cs from rfl, closes]
        simpa using outside
      simp only [quoteRuns, word, Bool.false_eq_true, if_false, if_true]
      exact read

end Name

end OracleSql
