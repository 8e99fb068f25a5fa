import OracleSql.Proofs.Literal.Alike
import OracleSql.Proofs.Sql.Operand

set_option autoImplicit false

namespace OracleSql

open Sql

namespace Sql

/-- An operand that starts with no parenthesis, so that others can be listed after it. -/
structure Listable (s : String) : Prop where
  operand : Operand s
  starts : s.toList.head? ≠ some '('

variable {a b s : String} {ps : List Piece} {ts : List Token}

theorem listable_of_pieces (read : groups? s = some ps)
    (free : ∀ c : Connective, c.lexeme ∉ lexemes ps) (starts : s.toList.head? ≠ some '(') :
    Listable s := by
  refine ⟨⟨ps, read, free .and, free .or, fun first => ?_⟩, starts⟩
  obtain ⟨ts, written, read⟩ := groups?_eq_some_iff.1 read
  exact absurd (head?_of_isGroup written read first) starts

theorem listable_of_letters (written : Written s.toList ts) (opening : '(' ∉ s.toList)
    (closing : ')' ∉ s.toList)
    (letters : ∀ t ∈ ts, (Piece.token t).letter? ≠ some 'A' ∧ (Piece.token t).letter? ≠ some 'O') :
    Listable s := by
  have flat : (ts.map Piece.token).all (fun p => !p.isGroup) = true := by
    simp [Piece.isGroup]
  refine ⟨⟨_, groups?_of_absent written opening closing, unconnected_of_letters flat ?_⟩, ?_⟩
  next =>
    intro p member
    obtain ⟨t, inside, rfl⟩ := List.mem_map.1 member
    exact letters t inside
  next => exact fun first => opening (List.mem_of_head? first)

theorem Listable.listed (ha : Listable a) (hb : Listable b) : Listable (a ++ ", " ++ b) := by
  obtain ⟨⟨ps, readA, connectsA⟩, starts⟩ := ha
  obtain ⟨⟨qs, readB, connectsB⟩, -⟩ := hb
  let comma : Piece := .token (.plain ',')
  let gap : Piece := .token (.plain ' ')
  have separator : groups? ", " = some [comma, gap] := by decide
  have read := groups?_append (groups?_append readA separator (.inr (by decide))) readB
    (.inl (endsPlain_append_of_ne a (by decide) (by decide)))
  have words : lexemes (ps ++ [comma, gap] ++ qs) = lexemes ps ++ .piece comma :: lexemes qs := by
    have split : ps ++ [comma, gap] ++ qs = ps ++ comma :: (gap :: qs) := by simp
    rw [split, lexemes_append (by decide)]
    rfl
  refine listable_of_pieces read (fun c => ?_) ?_
  next =>
    have free : c.lexeme ∉ lexemes ps ∧ c.lexeme ∉ lexemes qs := by
      cases c with
      | and => exact ⟨connectsA.noAnd, connectsB.noAnd⟩
      | or => exact ⟨connectsA.noOr, connectsB.noOr⟩
    rw [words, List.mem_append, List.mem_cons]
    rintro (first | same | last)
    next => exact free.1 first
    next => cases same
    next => exact free.2 last
  next =>
    rw [String.toList_append, String.toList_append]
    cases chars : a.toList with
    | nil => simp
    | cons c cs => simpa [chars] using starts

theorem listable_intercalate {xs : List String} (all : ∀ x ∈ xs, Listable x) :
    Listable (", ".intercalate xs) := by
  have empty : groups? "" = some [] := by decide
  have none : Listable "" :=
    listable_of_pieces empty (fun c => by simp [lexemes, spelled]) (by simp)
  exact intercalate_induction none (fun first rest => first.listed rest) all

theorem Balanced.listable {e : String} (h : Balanced e) {before after : String}
    (k : Encloses before after) (starts : before.toList.head?.any (· != '(') = true) :
    Listable (before ++ e ++ after) := by
  refine ⟨h.enclosed k, ?_⟩
  rw [String.toList_append, String.toList_append]
  cases chars : before.toList with
  | nil => simp [chars] at starts
  | cons c cs => simpa [chars] using starts

end Sql

theorem toUpper_of_isDigit {c : Char} (h : c.isDigit = true) : c.toUpper = c := by
  have digit : '0'.val ≤ c.val ∧ c.val ≤ '9'.val := by simpa [Char.isDigit] using h
  have lower : ¬ ('a'.val ≤ c.val ∧ c.val ≤ 'z'.val) := fun letter =>
    absurd (UInt32.le_trans letter.1 digit.2) (by decide)
  exact dif_neg lower

theorem letter?_of_isNumeral {c : Char} (h : isNumeral c = true) :
    (Piece.token (.plain c)).letter? ≠ some 'A' ∧ (Piece.token (.plain c)).letter? ≠ some 'O' := by
  simp only [isNumeral, Bool.or_eq_true, beq_iff_eq] at h
  rcases h with (((digit | rfl) | rfl) | rfl) | rfl
  next =>
    have notA : c ≠ 'A' := ne_of_isDigit digit (by decide)
    have notO : c ≠ 'O' := ne_of_isDigit digit (by decide)
    constructor <;> simp [Piece.letter?, toUpper_of_isDigit digit, notA, notO]
  all_goals decide

theorem listable_of_consists {s : String} (h : Consists isNumeral s) : Listable s := by
  have absent {c : Char} (other : isNumeral c = false) : c ∉ s.toList := by
    intro member
    rw [h c member] at other
    cases other
  have written := written_plains fun c member => isPlain_of_isBare (h.bare c member)
  refine listable_of_letters written (absent (by decide)) (absent (by decide)) fun t member => ?_
  obtain ⟨c, inside, rfl⟩ := List.mem_map.1 member
  exact letter?_of_isNumeral (h c inside)

theorem listable_of_quoted {s : String} {content : List Char}
    (read : scan s.toList = some [.quoted .literal content]) : Listable s := by
  have found : groups? s = some [.token (.quoted .literal content)] :=
    groups?_eq_some_iff.2 ⟨_, scan_eq_some_iff.1 read, rfl⟩
  refine listable_of_pieces found (fun c => ?_) ?_
  next => cases c <;> simp [lexemes, spelled, Piece.letter?, Connective.lexeme, keyword]
  next =>
    rw [← (scan_eq_some_iff.1 read).text_eq]
    simp [Token.text, Quoted.mark]

namespace Literal

theorem listable_escapeText (s : String) : Listable (escapeText s) := by
  obtain ⟨content, read⟩ := exists_scan_escapeText s
  exact listable_of_quoted read

theorem listable_enclosed {s : String} (h : EvenRuns s) : Listable ("'" ++ s ++ "'") :=
  listable_of_quoted (scan_enclosed h)

theorem listable_ofInstant (t : Instant) (offset : Int) : Listable (ofInstant t offset) := by
  have literal := listable_enclosed (evenRuns_of_bare (bare_timestampText t offset))
  rw [ofInstant_eq]
  exact literal.operand.balanced.listable (by decide +kernel) (by decide)

theorem listable_blob (bytes : List UInt8) :
    Listable ("HEXTORAW('" ++ Value.hex bytes ++ "')") := by
  have literal := listable_enclosed (evenRuns_of_bare (bare_hex bytes))
  rw [blob_eq]
  exact literal.operand.balanced.listable (by decide) (by decide)

variable (offset : Int)

mutual

theorem listable_escape : ∀ v : Value, Listable (escape offset v)
  | .null => (⟨by decide, by decide⟩ : Listable "NULL")
  | .bool b =>
      listable_of_consists (by cases b <;> decide : Consists isNumeral (if b then "1" else "0"))
  | .int n => listable_of_consists (consists_toString_int n)
  | .float x => by
      cases x with
      | finite negative code => exact listable_of_consists (Double.consists_finiteText _ _ _)
      | nan | infinite => exact listable_escape .null
  | .text s => listable_escapeText s
  | .instant t => listable_ofInstant t offset
  | .blob bytes => listable_blob bytes
  | .array items => by
      unfold escape ofValue
      split
      next => exact listable_intercalate (listable_ofValues items)
      next => exact listable_escapeText _
  | .object entries => listable_escapeText _

theorem listable_ofValues : ∀ items : List Value, ∀ x ∈ ofValues offset false items, Listable x
  | [] => by simp [ofValues]
  | item :: rest => by
      rw [ofValues, List.forall_mem_cons]
      exact ⟨listable_escape item, listable_ofValues rest⟩

end

end Literal

end OracleSql
