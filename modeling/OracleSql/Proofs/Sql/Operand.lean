import OracleSql.Proofs.Sql.Group

set_option autoImplicit false

namespace OracleSql.Sql

-- None when a quote or a parenthesis stays open, or a parenthesis closes too early.
def groups? (s : String) : Option (List Piece) :=
  (scan s.toList).bind pieces?

def Balanced (s : String) : Prop :=
  (groups? s).isSome = true

instance (s : String) : Decidable (Balanced s) :=
  inferInstanceAs (Decidable ((groups? s).isSome = true))

/-- Nothing in the text connects it with what stands beside it. -/
def Operand (s : String) : Prop :=
  ∃ ps, groups? s = some ps ∧ Unconnected ps

instance (s : String) : Decidable (Operand s) :=
  decidable_of_iff ((groups? s).any (fun ps => decide (Unconnected ps)) = true) <| by
    cases h : groups? s <;> simp [Operand, h]

-- The first parenthesis is closed by the last one.
def IsGroup (s : String) : Prop :=
  ∃ content, groups? s = some [.group content]

variable {a b e s : String} {ps qs : List Piece} {ts : List Token}

theorem groups?_eq_some_iff :
    groups? s = some ps ↔
      ∃ ts, Written s.toList ts ∧ Nest.outside.read? ts = some (ps, .outside) := by
  simp only [groups?, Option.bind_eq_some_iff, scan_eq_some_iff, pieces?_eq_some_iff]

theorem balanced_iff : Balanced s ↔ ∃ ps, groups? s = some ps :=
  Option.isSome_iff_exists

theorem Operand.balanced (h : Operand s) : Balanced s :=
  balanced_iff.2 ⟨_, h.choose_spec.1⟩

theorem IsGroup.balanced (h : IsGroup s) : Balanced s :=
  balanced_iff.2 ⟨_, h.choose_spec⟩

theorem groups?_append (ha : groups? a = some ps) (hb : groups? b = some qs)
    (meet : EndsPlain a ∨ StartsPlain b) : groups? (a ++ b) = some (ps ++ qs) := by
  obtain ⟨ts, writtenA, readA⟩ := groups?_eq_some_iff.1 ha
  obtain ⟨us, writtenB, readB⟩ := groups?_eq_some_iff.1 hb
  refine groups?_eq_some_iff.2 ⟨ts ++ us, ?_, Nest.read?_append readA readB⟩
  rcases meet with ends | starts
  next => exact writtenA.append_of_endsPlain writtenB ends
  next => exact writtenA.append_of_startsPlain writtenB starts

/-- What may stand beside any text: it keeps quotes apart and has no open parenthesis. -/
structure Joint (w : String) : Prop where
  balanced : Balanced w
  starts : StartsPlain w
  ends : EndsPlain w
  some : w ≠ ""

instance (w : String) : Decidable (Joint w) :=
  decidable_of_iff (Balanced w ∧ StartsPlain w ∧ EndsPlain w ∧ w ≠ "")
    ⟨fun h => ⟨h.1, h.2.1, h.2.2.1, h.2.2.2⟩, fun h => ⟨h.balanced, h.starts, h.ends, h.some⟩⟩

namespace Balanced

theorem append (ha : Balanced a) (hb : Balanced b) (meet : EndsPlain a ∨ StartsPlain b) :
    Balanced (a ++ b) := by
  obtain ⟨ps, readA⟩ := balanced_iff.1 ha
  obtain ⟨qs, readB⟩ := balanced_iff.1 hb
  exact balanced_iff.2 ⟨_, groups?_append readA readB meet⟩

theorem after (h : Balanced a) {w : String} (joint : Joint w) : Balanced (w ++ a) :=
  joint.balanced.append h (.inl joint.ends)

theorem before (h : Balanced a) {w : String} (joint : Joint w) : Balanced (a ++ w) :=
  h.append joint.balanced (.inr joint.starts)

theorem between (ha : Balanced a) (hb : Balanced b) {w : String} (joint : Joint w) :
    Balanced (a ++ w ++ b) :=
  (ha.before joint).append hb (.inl (endsPlain_append_of_ne a joint.ends joint.some))

theorem intercalate {xs : List String} (all : ∀ x ∈ xs, Balanced x) {w : String}
    (joint : Joint w) : Balanced (w.intercalate xs) :=
  intercalate_induction (by decide) (fun first rest => first.between rest joint) all

end Balanced

def enclosing? (before after : String) : Option (List Piece) :=
  (scan before.toList).bind fun ts => (scan after.toList).bind fun us =>
    match Nest.outside.read? ts with
    | some (ps, .inside deeper content) =>
        match (Nest.inside deeper content).read? us with
        | some (qs, .outside) => some (ps ++ qs)
        | _ => none
    | _ => none

structure Encloses (before after : String) : Prop where
  ends : EndsPlain before
  starts : StartsPlain after
  unconnected : (enclosing? before after).any (fun ps => decide (Unconnected ps)) = true

instance (before after : String) : Decidable (Encloses before after) :=
  decidable_of_iff (EndsPlain before ∧ StartsPlain after ∧
      (enclosing? before after).any (fun ps => decide (Unconnected ps)) = true)
    ⟨fun h => ⟨h.1, h.2.1, h.2.2⟩, fun h => ⟨h.ends, h.starts, h.unconnected⟩⟩

theorem exists_of_enclosing? {before after : String} (h : enclosing? before after = some ps) :
    ∃ ts us deeper content first rest, Written before.toList ts ∧ Written after.toList us ∧
      Nest.outside.read? ts = some (first, .inside deeper content) ∧
      (Nest.inside deeper content).read? us = some (rest, .outside) ∧ ps = first ++ rest := by
  simp only [enclosing?, Option.bind_eq_some_iff, scan_eq_some_iff] at h
  obtain ⟨ts, writtenBefore, us, writtenAfter, read⟩ := h
  split at read
  next first deeper content opened =>
    split at read
    next rest closed =>
      cases read
      exact ⟨ts, us, deeper, content, first, rest, writtenBefore, writtenAfter, opened, closed, rfl⟩
    next => cases read
  next => cases read

theorem Balanced.enclosed (h : Balanced e) {before after : String} (k : Encloses before after) :
    Operand (before ++ e ++ after) := by
  obtain ⟨outer, found, unconnected⟩ := Option.any_eq_true _ _ |>.1 k.unconnected
  obtain ⟨ts, us, deeper, content, first, rest, writtenBefore, writtenAfter, opened, closed, rfl⟩ :=
    exists_of_enclosing? found
  obtain ⟨inner, read⟩ := balanced_iff.1 h
  obtain ⟨es, written, readInner⟩ := groups?_eq_some_iff.1 read
  -- The argument only adds to the content of the group it stands in.
  have within := Nest.read?_inside readInner deeper content
  rw [Nest.depth, Nat.zero_add] at within
  obtain ⟨qs, readAfter, same⟩ := Nest.read?_other closed (content ++ es)
  have all := Nest.read?_append (Nest.read?_append opened within) readAfter
  have writtenAll := (writtenBefore.append_of_endsPlain written k.ends).append_of_startsPlain
    writtenAfter k.starts
  refine ⟨first ++ [] ++ qs, groups?_eq_some_iff.2 ⟨_, writtenAll, all⟩, ?_⟩
  exact (of_decide_eq_true unconnected).of_outline (by simp [same])

theorem Balanced.enclosed_pair (ha : Balanced a) (hb : Balanced b) {before w after : String}
    (joint : Joint w) (k : Encloses before after) :
    Operand (before ++ a ++ w ++ b ++ after) := by
  simpa only [String.append_assoc] using (ha.between hb joint).enclosed k

theorem groups?_parenthesized (written : Written e.toList ts)
    (read : Nest.outside.read? ts = some (ps, .outside)) :
    groups? ("(" ++ e ++ ")") = some [.group ts] := by
  have writtenAll := (written.after "(" (by decide)).before ")" (by decide)
  have within := Nest.read?_inside read 0 []
  have opened : Nest.outside.read? (plains "(") = some ([], .inside 0 []) := rfl
  have closed : (Nest.inside 0 ([] ++ ts)).read? (plains ")") = some ([.group ts], .outside) := rfl
  exact groups?_eq_some_iff.2
    ⟨_, writtenAll, Nest.read?_append (Nest.read?_append opened within) closed⟩

theorem Balanced.isGroup (h : Balanced e) : IsGroup ("(" ++ e ++ ")") := by
  obtain ⟨ps, read⟩ := balanced_iff.1 h
  obtain ⟨ts, written, read⟩ := groups?_eq_some_iff.1 read
  exact ⟨ts, groups?_parenthesized written read⟩

theorem isGroup_of_head? (written : Written s.toList ts)
    (read : Nest.outside.read? ts = some (ps, .outside)) (first : s.toList.head? = some '(') :
    ps.head?.any Piece.isGroup = true := by
  have all := Nest.tokens_of_read? read
  rw [Nest.begun, List.nil_append, List.append_nil] at all
  rw [← written.text_eq, all] at first
  cases ps with
  | nil => simp [text] at first
  | cons p ps =>
    cases p with
    | group => rfl
    | token t =>
      -- A parenthesis outside of groups is no piece, and a quote is no parenthesis.
      have other := (Nest.not_parenthesis_of_read? read (by simp : Piece.token t ∈ _)).1
      cases t with
      | plain c => simp_all [Piece.tokens, Token.text]
      | quoted kind content => cases kind <;> simp [Piece.tokens, Token.text, Quoted.mark] at first

theorem isGroup_of_getLast? (written : Written s.toList ts)
    (read : Nest.outside.read? ts = some (ps, .outside)) (last : s.toList.getLast? = some ')') :
    ps.getLast?.any Piece.isGroup = true := by
  have all := Nest.tokens_of_read? read
  rw [Nest.begun, List.nil_append, List.append_nil] at all
  rw [← written.text_eq, all] at last
  rcases List.eq_nil_or_concat ps with rfl | ⟨front, p, rfl⟩
  next => simp [text] at last
  next =>
    rw [List.concat_eq_append] at last read ⊢
    cases p with
    | group => simp [Piece.isGroup]
    | token t =>
      have other := (Nest.not_parenthesis_of_read? read (by simp : Piece.token t ∈ _)).2
      cases t with
      | plain c => simp_all [Piece.tokens, Token.text, text]
      | quoted kind content =>
        rw [List.flatMap_append, List.flatMap_singleton, Piece.tokens, getLast?_text_quoted] at last
        cases kind <;> simp [Quoted.mark] at last

theorem head?_of_isGroup (written : Written s.toList ts)
    (read : Nest.outside.read? ts = some (ps, .outside)) (first : ps.head?.any Piece.isGroup = true) :
    s.toList.head? = some '(' := by
  have all := Nest.tokens_of_read? read
  rw [Nest.begun, List.nil_append, List.append_nil] at all
  rw [← written.text_eq, all]
  cases ps with
  | nil => cases first
  | cons p ps =>
    cases p with
    | token => cases first
    | group => simp [Piece.tokens, Token.text]

theorem Operand.isGroup (h : Operand s) (first : s.toList.head? = some '(')
    (last : s.toList.getLast? = some ')') : IsGroup s := by
  obtain ⟨ps, found, unconnected⟩ := h
  obtain ⟨ts, written, read⟩ := groups?_eq_some_iff.1 found
  have starts := isGroup_of_head? written read first
  have single := unconnected.whole starts (isGroup_of_getLast? written read last)
  obtain ⟨p, rfl⟩ := List.length_eq_one_iff.1 single
  cases p with
  | token => cases starts
  | group content => exact ⟨content, found⟩

theorem IsGroup.operand_after (h : IsGroup s) {w : String} {before : List Piece}
    (read : groups? w = some before) (ends : EndsPlain w)
    (unconnected : Unconnected (before ++ [.group []])) : Operand (w ++ s) := by
  obtain ⟨content, group⟩ := h
  exact ⟨_, groups?_append read group (.inl ends), unconnected.of_outline (by simp [Piece.outline])⟩

theorem read?_of_absent (opening : Token.plain '(' ∉ ts) (closing : Token.plain ')' ∉ ts) :
    Nest.outside.read? ts = some (ts.map Piece.token, .outside) := by
  induction ts with
  | nil => rfl
  | cons t ts ih =>
    have rest := ih (fun member => opening (List.mem_cons_of_mem t member))
      fun member => closing (List.mem_cons_of_mem t member)
    have first : Nest.outside.step? t = some ([.token t], .outside) := by
      have notOpening : t ≠ .plain '(' := fun same => opening (by simp [same])
      have notClosing : t ≠ .plain ')' := fun same => closing (by simp [same])
      simp [Nest.step?, notOpening, notClosing]
    rw [Nest.read?_cons first, rest]
    rfl

theorem mem_of_plain_mem {cs : List Char} (written : Written cs ts) {c : Char}
    (member : Token.plain c ∈ ts) : c ∈ cs := by
  rw [← written.text_eq, text, List.mem_flatMap]
  exact ⟨_, member, by simp [Token.text]⟩

theorem groups?_of_absent (written : Written s.toList ts) (opening : '(' ∉ s.toList)
    (closing : ')' ∉ s.toList) : groups? s = some (ts.map Piece.token) :=
  groups?_eq_some_iff.2 ⟨ts, written,
    read?_of_absent (fun member => opening (mem_of_plain_mem written member))
      fun member => closing (mem_of_plain_mem written member)⟩

theorem balanced_of_absent (closed : Closed s) (opening : '(' ∉ s.toList) (closing : ')' ∉ s.toList) :
    Balanced s := by
  obtain ⟨ts, scanned⟩ := Option.isSome_iff_exists.1 closed
  exact balanced_iff.2 ⟨_, groups?_of_absent (scan_eq_some_iff.1 scanned) opening closing⟩

theorem groups?_quote (name : String) :
    groups? (Name.quote name) = some [.token (.quoted .name name.toList)] :=
  groups?_eq_some_iff.2 ⟨_, written_quote name, rfl⟩

theorem balanced_quote (name : String) : Balanced (Name.quote name) :=
  balanced_iff.2 ⟨_, groups?_quote name⟩

theorem unconnected_of_letters (flat : ps.all (fun p => !p.isGroup) = true)
    (letters : ∀ p ∈ ps, p.letter? ≠ some 'A' ∧ p.letter? ≠ some 'O') : Unconnected ps := by
  refine ⟨?_, ?_, ?_⟩
  next =>
    rw [keyword_mem_lexemes_iff]
    intro member
    obtain ⟨p, inside, same⟩ := exists_letter_of_mem_spelled member (by simp : 'A' ∈ _)
    exact (letters p inside).1 same
  next =>
    rw [keyword_mem_lexemes_iff]
    intro member
    obtain ⟨p, inside, same⟩ := exists_letter_of_mem_spelled member (by simp : 'O' ∈ _)
    exact (letters p inside).2 same
  next =>
    intro first _
    cases ps with
    | nil => cases first
    | cons p ps => simp_all

inductive Connective where
  | and
  | or
  deriving DecidableEq

namespace Connective

def name : Connective → String
  | .and => "AND"
  | .or => "OR"

def separator : Connective → String
  | .and => " AND "
  | .or => " OR "

def lexeme (c : Connective) : Lexeme :=
  keyword c.name

end Connective

def lexemes? (s : String) : Option (List Lexeme) :=
  (groups? s).map lexemes

theorem lexemes?_between {xs ys : List Lexeme} (ha : lexemes? a = some xs) (hb : lexemes? b = some ys)
    (c : Connective) : lexemes? (a ++ c.separator ++ b) = some (xs ++ c.lexeme :: ys) := by
  obtain ⟨ps, readA, rfl⟩ := Option.map_eq_some_iff.1 ha
  obtain ⟨qs, readB, rfl⟩ := Option.map_eq_some_iff.1 hb
  let gap : Piece := .token (.plain ' ')
  obtain ⟨letters, read, one⟩ : ∃ letters, groups? c.separator = some (gap :: (letters ++ [gap])) ∧
      lexemes (gap :: letters) = [c.lexeme] := by
    cases c with
    | and => exact ⟨"AND".toList.map (.token ∘ .plain), by decide, by decide⟩
    | or => exact ⟨"OR".toList.map (.token ∘ .plain), by decide, by decide⟩
  have ends : EndsPlain c.separator := by cases c <;> decide
  have starts : StartsPlain c.separator := by cases c <;> decide
  have some : c.separator ≠ "" := by cases c <;> decide
  have whole := groups?_append (groups?_append readA read (.inr starts)) readB
    (.inl (endsPlain_append_of_ne a ends some))
  -- Neither blank can be part of a word, so the words are those of the three parts.
  have blank : gap.letter? = none := by decide
  have last : lexemes (gap :: qs) = lexemes qs := by
    simp [lexemes, spelled, blank, gap, Sql.blank]
  have split : ps ++ gap :: (letters ++ [gap]) ++ qs = ps ++ gap :: (letters ++ gap :: qs) := by simp
  rw [lexemes?, whole, Option.map_some, split, lexemes_append blank, ← List.cons_append,
    lexemes_append blank, one, last]
  rfl

theorem lexemes?_intercalate {texts : List String} {lists : List (List Lexeme)}
    (h : List.Forall₂ (fun x xs => lexemes? x = some xs) texts lists) (some : texts ≠ [])
    (c : Connective) :
    lexemes? (c.separator.intercalate texts) = Option.some ([c.lexeme].intercalate lists) := by
  induction h with
  | nil => exact absurd rfl some
  | @cons x xs texts lists first rest ih =>
    cases rest with
    | nil => simpa using first
    | cons _ _ =>
      rw [String.intercalate_cons_cons, List.intercalate_cons_cons, List.append_assoc,
        List.singleton_append]
      exact lexemes?_between first (ih (by simp)) c

/-- The text is that of its only operand, or a group in which the connective stands between the
operands and nowhere else. -/
def Connects (c : Connective) (operands : List String) (sql : String) : Prop :=
  (∀ x ∈ operands, Operand x) ∧
    (operands = [sql] ∨
      sql = "(" ++ c.separator.intercalate operands ++ ")" ∧ IsGroup sql ∧
        ∃ words, lexemes? (c.separator.intercalate operands) = some words ∧
          (words.splitOn c.lexeme).map some = operands.map lexemes?)

/-- The negated text is one group, with parentheses of its own or with those that it had. -/
def Negates (operand sql : String) : Prop :=
  ∃ group, sql = "NOT " ++ group ∧ (group = operand ∨ group = "(" ++ operand ++ ")") ∧ IsGroup group

theorem Operand.exists_lexemes? (h : Operand s) : ∃ words, lexemes? s = some words ∧
    ∀ c : Connective, c.lexeme ∉ words := by
  obtain ⟨ps, read, unconnected⟩ := h
  refine ⟨lexemes ps, by rw [lexemes?, read]; rfl, fun c => ?_⟩
  cases c with
  | and => exact unconnected.noAnd
  | or => exact unconnected.noOr

theorem connects_intercalate {operands : List String} (all : ∀ x ∈ operands, Operand x)
    (some : operands ≠ []) (c : Connective) :
    Connects c operands ("(" ++ c.separator.intercalate operands ++ ")") := by
  have joint : Joint c.separator := by cases c <;> decide
  have group := (Balanced.intercalate (fun x member => (all x member).balanced) joint).isGroup
  have reads : List.Forall₂ (fun x words => lexemes? x = Option.some words) operands
      (operands.map fun x => (lexemes? x).getD []) := by
    rw [List.forall₂_map_right_iff, List.forall₂_same]
    intro x member
    obtain ⟨words, read, -⟩ := (all x member).exists_lexemes?
    simp [read]
  refine ⟨all, .inr ⟨rfl, group, _, lexemes?_intercalate reads some c, ?_⟩⟩
  rw [List.splitOn_intercalate, List.map_map]
  next =>
    refine List.map_congr_left fun x member => ?_
    obtain ⟨words, read, -⟩ := (all x member).exists_lexemes?
    simp [read]
  next =>
    intro words member
    obtain ⟨x, inside, rfl⟩ := List.mem_map.1 member
    obtain ⟨words, read, free⟩ := (all x inside).exists_lexemes?
    simpa [read] using free c
  next => simpa using some

end OracleSql.Sql
