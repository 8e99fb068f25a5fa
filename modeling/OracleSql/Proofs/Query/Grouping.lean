import OracleSql.Proofs.Literal.Operand
import OracleSql.Proofs.Query.Select

set_option autoImplicit false

namespace OracleSql

open Sql

def Checked.All {α : Type} (P : α → Prop) (x : Checked α) : Prop :=
  ∀ a, x = .ok a → P a

namespace Checked.All

variable {α β : Type} {P : α → Prop} {Q : β → Prop}

theorem ok {a : α} (h : P a) : All P (.ok a) := by
  intro b same
  cases same
  exact h

theorem error (e : QueryError) : All P (.error e) := by
  intro a same
  cases same

theorem map {x : Checked α} (h : All P x) {f : α → β} (k : ∀ a, P a → Q (f a)) :
    All Q (x.map f) := by
  cases x with
  | ok a => exact .ok (k a (h a rfl))
  | error e => exact .error e

theorem bind {x : Checked α} (h : All P x) {f : α → Checked β} (k : ∀ a, P a → All Q (f a)) :
    All Q (x >>= f) := by
  cases x with
  | ok a => exact k a (h a rfl)
  | error e => exact .error e

end Checked.All

theorem Checked.bind_eq_ok_iff {α β : Type} {x : Checked α} {f : α → Checked β} {b : β} :
    x >>= f = .ok b ↔ ∃ a, x = .ok a ∧ f a = .ok b := by
  constructor
  next =>
    intro h
    cases x with
    | ok a => exact ⟨a, rfl, h⟩
    | error e => cases h
  next =>
    rintro ⟨a, rfl, h⟩
    exact h

theorem Checked.map_eq_ok_iff {α β : Type} {x : Checked α} {f : α → β} {b : β} :
    x.map f = .ok b ↔ ∃ a, x = .ok a ∧ f a = b := by
  constructor
  next =>
    intro h
    cases x with
    | ok a => exact ⟨a, rfl, Except.ok.inj h⟩
    | error e => cases h
  next =>
    rintro ⟨a, rfl, rfl⟩
    rfl

abbrev Checked.Each (P : String → Prop) (x : Checked (List String)) : Prop :=
  x.All fun texts => ∀ text ∈ texts, P text

open Checked (All Each)

variable {a b : String} {xs : List String}

theorem Name.balanced_starred (name : String) :
    Balanced (if name = "*" then "*" else Name.quote name) := by
  split
  next => decide
  next => exact balanced_quote name

theorem ColumnRef.operand_render (c : ColumnRef) : Operand c.render := by
  obtain ⟨table, column⟩ := c
  have last : ∃ t, groups? (if column = "*" then "*" else Name.quote column) =
      some [.token t] ∧ (Piece.token t).letter? = none := by
    split
    next => exact ⟨_, rfl, by decide⟩
    next => exact ⟨_, groups?_quote column, rfl⟩
  obtain ⟨t, read, plain⟩ := last
  cases table with
  | none => exact ⟨_, read, unconnected_of_letters rfl (by simp [plain])⟩
  | some table =>
    have dot : groups? "." = some [.token (.plain '.')] := rfl
    have whole := groups?_append (groups?_append (groups?_quote table) dot (.inr (by decide))) read
      (.inl (endsPlain_append_of_ne _ (by decide) (by decide)))
    have first : (Piece.token (.quoted .name table.toList)).letter? = none := rfl
    have middle : (Piece.token (.plain '.')).letter? = none := by decide
    exact ⟨_, whole, unconnected_of_letters rfl (by simp [first, middle, plain])⟩

theorem Name.mem_quoteRuns {inWord : Bool} {cs : List Char} {c : Char}
    (h : c ∈ quoteRuns inWord cs) : c = '"' ∨ c ∈ cs := by
  induction cs generalizing inWord with
  | nil => cases inWord <;> simp_all [quoteRuns]
  | cons d cs ih =>
    unfold quoteRuns at h
    have later {inside : Bool} (member : c ∈ quoteRuns inside cs) : c = '"' ∨ c ∈ d :: cs :=
      (ih member).imp id fun inside => List.mem_cons_of_mem d inside
    split at h
    all_goals split at h
    all_goals simp only [List.mem_cons] at h
    next => exact h.elim (fun same => .inr (by simp [same])) later
    next => exact h.elim .inl fun h => h.elim (fun same => .inr (by simp [same])) later
    next => exact h.elim .inl fun h => h.elim (fun same => .inr (by simp [same])) later
    next => exact h.elim (fun same => .inr (by simp [same])) later

theorem Name.balanced_quoteWords_append {a b : String} (ha : Name.isDotted a = true)
    (hb : ∀ c ∈ b.toList, c = '.' ∨ c = '*') : Balanced (Name.quoteWords (a ++ b)) := by
  have absent {d : Char} (other : isWordChar d = false) (noMark : d ≠ '"') (noDot : d ≠ '.')
      (noStar : d ≠ '*') : d ∉ (quoteWords (a ++ b)).toList := by
    intro member
    have inside : d = '"' ∨ d ∈ (a ++ b).toList := by
      unfold quoteWords at member
      split at member
      next => exact .inr member
      next => exact mem_quoteRuns (by simpa using member)
    rw [String.toList_append, List.mem_append] at inside
    rcases inside with mark | first | last
    next => exact noMark mark
    next =>
      have dotted := List.all_eq_true.1 ha d first
      simp [other, noDot] at dotted
    next => exact (hb d last).elim noDot noStar
  have closed := Name.closed_quoteWords_append ha fun c member =>
    .inr ((hb c member).elim (fun same => by simp [same]; decide) fun same => by simp [same]; decide)
  exact balanced_of_absent closed (absent (by decide +kernel) (by decide) (by decide) (by decide))
    (absent (by decide +kernel) (by decide) (by decide) (by decide))

theorem Name.balanced_quoteWords {name : String} (h : Name.isDotted name = true) :
    Balanced (Name.quoteWords name) := by
  simpa using Name.balanced_quoteWords_append (b := "") h (by simp)

theorem Entity.balanced_render {e : Entity} (h : e.isDotted = true) : Balanced e.render := by
  have name := Name.balanced_quoteWords (Bool.and_eq_true_iff.1 h).1
  unfold Entity.render
  split
  next own _ => exact name.between (balanced_quote own) (by decide)
  next => exact name

theorem Settings.joint_alias (s : Settings) :
    Joint (if s.aliasKeyword then " AS " else " ") := by
  split
  next => decide
  next => decide

theorem Settings.balanced_withAlias (s : Settings) (h : Balanced a) (alias? : Option String) :
    Balanced (s.withAlias a alias?) := by
  cases alias? with
  | none => exact h
  | some name => exact h.between (balanced_quote name) s.joint_alias

theorem UnaryFunction.operand_apply (f : UnaryFunction) (h : Balanced a) : Operand (f.apply a) :=
  h.enclosed (by cases f <;> decide +kernel)

theorem BinaryFunction.operand_apply (f : BinaryFunction) (ha : Balanced a) (hb : Balanced b) :
    Operand (f.apply a b) := by
  have joint : Joint f.around.2.1 := by cases f <;> decide
  exact ha.enclosed_pair hb joint (by cases f <;> decide)

theorem Matcher.operand_apply (f : Matcher) (ha : Balanced a) (hb : Balanced b) :
    Operand (f.apply a b) := by
  have joint : Joint f.around.2.1 := by cases f <;> decide
  exact ha.enclosed_pair hb joint (by cases f <;> decide)

theorem Matcher.balanced_literal (f : Matcher) (offset : Int) {v : Value} (inline : v.isInline = true) :
    Balanced (f.literal offset v) := by
  have first : Literal.EvenRuns f.anchors.1 := by cases f <;> decide
  have last : Literal.EvenRuns f.anchors.2 := by cases f <;> decide
  have even := (first.append (Literal.evenRuns_ofValue offset v inline)).append last
  have literal := (Literal.listable_enclosed even).operand.balanced
  simpa only [Matcher.literal, String.append_assoc] using literal

theorem Matcher.balanced_computed (f : Matcher) (h : Balanced a) : Balanced (f.computed a) := by
  refine Balanced.intercalate (fun x member => ?_) (by decide)
  rw [List.mem_append, List.mem_append, List.mem_singleton] at member
  rcases member with (first | rfl) | last
  next => revert x; cases f <;> decide
  next => exact h
  next => revert x; cases f <;> decide

theorem balanced_number {n : String} (h : Consists isNumeral n) : Balanced n :=
  (listable_of_consists h).operand.balanced

theorem operand_extractText {s : Settings} (format : '\'' ∉ s.dateFormat.toList) (part : DatePart)
    (fromDocument : Bool) (h : Balanced a) : Operand (extractText s part fromDocument a) := by
  cases fromDocument with
  | false =>
    have around : Encloses ("EXTRACT(" ++ part.keyword ++ " FROM ") ")" := by
      cases part <;> decide
    exact h.enclosed around
  | true =>
    have around : Encloses ("EXTRACT(" ++ part.keyword ++ " FROM TO_TIMESTAMP_TZ(") "))" := by
      cases part <;> decide
    have literal := Literal.listable_enclosed (Literal.hasEvenRuns_of_absent format)
    have split : extractText s part true a =
        "EXTRACT(" ++ part.keyword ++ " FROM TO_TIMESTAMP_TZ(" ++ a ++ ", " ++
          ("'" ++ s.dateFormat ++ "'") ++ "))" := by
      have start : ", '" = ", " ++ "'" := by simp
      have rest : "'))" = "'" ++ "))" := by simp
      simp only [extractText, if_true, start, rest, String.append_assoc]
    rw [split]
    exact h.enclosed_pair literal.operand.balanced (by decide) around

theorem all_substringText (start : Int) (length? : Option Int) (h : Balanced a) :
    All Operand (substringText a start length?) := by
  have number (n : Int) : Balanced (toString n) := balanced_number (consists_toString_int n)
  have first : Balanced (a ++ "," ++ toString (start + 1)) := h.between (number _) (by decide)
  unfold substringText
  split
  next =>
    cases length? with
    | some length =>
      refine .ok ?_
      simpa only [String.append_assoc] using
        (first.between (number length) (by decide : Joint ",")).enclosed
          (by decide : Encloses "SUBSTR(" ")")
    | none =>
      refine .ok ?_
      simpa only [String.append_assoc] using first.enclosed (by decide : Encloses "SUBSTR(" ")")
  next => exact .error _

theorem operand_concatText (all : ∀ x ∈ xs, Balanced x) : Operand (concatText xs) := by
  refine (Balanced.intercalate (fun x member => ?_) (by decide)).enclosed (by decide)
  obtain ⟨e, inside, rfl⟩ := List.mem_map.1 member
  exact ((all e inside).enclosed (by decide)).balanced

theorem operand_decimalText (precision scale : Option Nat) (h : Balanced a) :
    Operand (decimalText a precision scale) := by
  have number (n : Nat) : Balanced (toString n) := balanced_number (consists_toString_nat n)
  have digits := (number (precision.getD 19)).between (number (scale.getD 8)) (by decide : Joint ",")
  have type := (digits.enclosed (by decide : Encloses "DECIMAL(" ")")).balanced
  have start : " AS DECIMAL(" = " AS " ++ "DECIMAL(" := by simp
  have rest : "))" = ")" ++ ")" := by simp
  unfold decimalText
  rw [start, rest]
  simpa only [String.append_assoc] using
    h.enclosed_pair type (by decide : Joint " AS ") (by decide : Encloses "CAST(" ")")

theorem operand_roundText {x : Option String} (h : Balanced a) (k : ∀ y ∈ x, Balanced y) :
    Operand ("ROUND(" ++ a ++ "," ++ x.getD "0" ++ ")") := by
  have digits : Balanced (x.getD "0") := by
    cases x with
    | none => exact (by decide : Balanced "0")
    | some y => exact k y rfl
  exact h.enclosed_pair digits (by decide) (by decide)

theorem all_jsonGetText {path : String} (h : '\'' ∉ path.toList) :
    All Operand (jsonGetText path) := by
  unfold jsonGetText
  split
  next table column property rest parts =>
    have even : Literal.EvenRuns (".".intercalate (property :: rest)) := by
      refine Literal.EvenRuns.intercalate (by decide) fun part member => ?_
      have inside : part ∈ Text.splitText '.' path := by
        rw [parts]
        exact List.mem_cons_of_mem _ (List.mem_cons_of_mem _ member)
      exact Literal.hasEvenRuns_of_absent (absent_of_mem_splitText inside h)
    have property : Literal.EvenRuns ("$." ++ ".".intercalate (property :: rest)) :=
      Literal.EvenRuns.append (by decide) even
    have literal := Literal.listable_enclosed property
    have source := (balanced_quote table).between (balanced_quote column) (by decide : Joint ".")
    have whole := source.enclosed_pair literal.operand.balanced (by decide : Joint ", ")
      (by decide : Encloses "JSON_VALUE(" ")")
    have start : ", '$." = ", " ++ ("'" ++ "$.") := by simp
    have rest : "')" = "'" ++ ")" := by simp
    refine .ok ?_
    rw [start, rest]
    simpa only [String.append_assoc] using whole
  next => exact .error _
  next => exact .error _

theorem all_memberText (name? : Option String) {x : Checked String} (h : All Balanced x) :
    All Balanced (memberText name? x) := by
  cases name? with
  | none => exact .error _
  | some name =>
    exact h.map fun _ value =>
      (Literal.listable_escapeText name).operand.balanced.between value (by decide)

theorem operand_objectText (all : ∀ x ∈ xs, Balanced x) : Operand (objectText xs) :=
  (Balanced.intercalate all (by decide)).enclosed (by decide)

theorem operand_arrayOfObjectsText (all : ∀ x ∈ xs, Balanced x) :
    Operand (arrayOfObjectsText xs) :=
  (operand_objectText all).balanced.enclosed (by decide)

theorem operand_arrayLiteral (offset : Int) (v : Value) : Operand (arrayLiteral offset v) := by
  unfold arrayLiteral
  split
  next => exact (Literal.listable_escapeText _).operand
  next => exact (Literal.listable_escape offset v).operand

theorem operand_uuidText : Operand uuidText := by
  have layout : Balanced uuidLayout := by decide +kernel
  exact layout.enclosed (by decide)

theorem operand_condText {c : String} (condition : Balanced c) (yes : Balanced a)
    (no : Balanced b) :
    Operand ("(CASE WHEN " ++ c ++ " THEN " ++ a ++ " ELSE " ++ b ++ " END)") := by
  have parts := condition.between yes (by decide : Joint " THEN ")
  simpa only [String.append_assoc] using parts.enclosed_pair no (by decide : Joint " ELSE ")
    (by decide : Encloses "(CASE WHEN " " END)")

theorem operand_betweenText {e : String} (h : Balanced e) (low : Balanced a) (high : Balanced b) :
    Operand ("(" ++ e ++ " BETWEEN " ++ a ++ " AND " ++ b ++ ")") := by
  have parts := h.between low (by decide : Joint " BETWEEN ")
  simpa only [String.append_assoc] using parts.enclosed_pair high (by decide : Joint " AND ")
    (by decide : Encloses "(" ")")

theorem balanced_commaList (all : ∀ x ∈ xs, Balanced x) : Balanced (commaList xs) :=
  Balanced.intercalate all (by decide)

theorem operand_rowNumberText (all : ∀ x ∈ xs, Balanced x) : Operand (rowNumberText xs) := by
  have terms : Balanced (if xs.isEmpty then "NULL" else commaList xs) := by
    split
    next => decide
    next => exact balanced_commaList all
  exact terms.enclosed (by decide)

theorem isGroup_parenthesize (h : Operand a) : IsGroup (parenthesize a) := by
  unfold parenthesize
  split
  next ends => exact h.isGroup ends.1 ends.2
  next => exact h.balanced.isGroup

theorem operand_negation (h : Operand a) : Operand ("NOT " ++ parenthesize a) :=
  (isGroup_parenthesize h).operand_after rfl (by decide) (by decide)

theorem negates_parenthesize (h : Operand a) : Negates a ("NOT " ++ parenthesize a) := by
  refine ⟨_, rfl, ?_, isGroup_parenthesize h⟩
  unfold parenthesize
  split
  next => exact .inl rfl
  next => exact .inr rfl

theorem all_joinConditions (c : Connective) (all : ∀ x ∈ xs, Operand x) :
    All (fun sql => Operand sql ∧ Connects c xs sql) (joinConditions c.separator xs) := by
  have joint : Joint c.separator := by cases c <;> decide
  unfold joinConditions
  split
  next => exact .error _
  next item => exact .ok ⟨all item (by simp), all, .inl rfl⟩
  next some _ =>
    have balanced := Balanced.intercalate (fun x member => (all x member).balanced) joint
    exact .ok ⟨balanced.enclosed (by decide), connects_intercalate all some c⟩

theorem all_comparisonText (op : Comparison) (right : Expr) {x : Checked String} (h : Balanced a)
    (k : All Balanced x) : All Operand (comparisonText a op right x) := by
  have joint : Joint op.symbol := by cases op <;> decide
  unfold comparisonText
  split
  next => exact .ok (h.enclosed (by decide))
  next => exact .ok (h.enclosed (by decide))
  next => exact k.map fun _ right => h.enclosed_pair right joint (by decide)

theorem operand_membershipText (negated : Bool) (ha : Balanced a) (hb : Balanced b) :
    Operand (membershipText negated a b) := by
  cases negated with
  | true => exact ha.enclosed_pair hb (by decide) (by decide)
  | false => exact ha.enclosed_pair hb (by decide) (by decide)

/-- Text that may follow any other. -/
structure Trailing (x : String) : Prop where
  balanced : Balanced x
  starts : StartsPlain x

namespace Trailing

theorem empty : Trailing "" :=
  ⟨by decide, by decide⟩

theorem append (ha : Trailing a) (hb : Trailing b) : Trailing (a ++ b) :=
  ⟨ha.balanced.append hb.balanced (.inr hb.starts), ha.starts.append hb.starts⟩

theorem keyword {word : String} (joint : Joint word) (h : Balanced a) : Trailing (word ++ a) :=
  ⟨h.after joint, startsPlain_append_of_ne a joint.starts joint.some⟩

theorem whereText {x : Option String} (h : ∀ y ∈ x, Balanced y) :
    Trailing (OracleSql.whereText x) := by
  cases x with
  | none => exact empty
  | some condition => exact keyword (by decide) (h condition rfl)

theorem clauseText {word : String} (joint : Joint word) (all : ∀ x ∈ xs, Balanced x) :
    Trailing (OracleSql.clauseText word xs) := by
  unfold OracleSql.clauseText
  split
  next => exact empty
  next => exact keyword joint (balanced_commaList all)

theorem joins (all : ∀ x ∈ xs, Balanced x) : Trailing (String.join (xs.map (" " ++ ·))) := by
  induction xs with
  | nil => exact empty
  | cons x xs ih =>
    rw [List.map_cons, String.join_cons]
    exact (keyword (by decide) (all x (by simp))).append
      (ih fun y member => all y (List.mem_cons_of_mem x member))

end Trailing

theorem Sql.Balanced.followed (h : Balanced a) (k : Trailing b) : Balanced (a ++ b) :=
  h.append k.balanced (.inr k.starts)

structure Clauses.Balanced (c : Clauses) : Prop where
  joins : Each Sql.Balanced c.joins
  filter : All (fun x => ∀ y ∈ x, Sql.Balanced y) c.filter
  group : Each Sql.Balanced c.group
  order : Each Sql.Balanced c.order

theorem all_plainText (distinct : Bool) {entity : Entity} (dotted : entity.isDotted = true)
    {items : Checked (List String)} (h : Each Balanced items) {c : Clauses}
    (k : c.Balanced) : All Balanced (plainText distinct entity items c) := by
  have opening : Joint ("SELECT " ++ (if distinct then "DISTINCT " else "")) := by
    cases distinct <;> decide
  refine h.bind fun _ items => k.joins.bind fun _ joins => k.filter.bind fun _ filter =>
    k.group.bind fun _ group => k.order.bind fun _ order => .ok ?_
  have columns := (balanced_commaList items).after opening
  have source := columns.between (Entity.balanced_render dotted) (by decide : Joint " FROM ")
  exact (((source.followed (.joins joins)).followed (.whereText filter)).followed
    (.clauseText (by decide) group)).followed (.clauseText (by decide) order)

theorem all_pageOuter (names : List (Option String)) :
    Each Balanced (pageOuter names) := by
  have named : Each Balanced (names.mapM pageName) := by
    induction names with
    | nil => exact .ok (by simp)
    | cons name? rest ih =>
      have first : All Balanced (pageName name?) := by
        cases name? with
        | none => exact .error _
        | some name => exact .ok (Name.balanced_starred name)
      rw [List.mapM_cons]
      exact first.bind fun _ first => ih.bind fun _ rest => .ok (List.forall_mem_cons.2 ⟨first, rest⟩)
  unfold pageOuter
  split
  next => exact .ok (by simpa using (by decide : Balanced "*"))
  next => exact named

theorem all_pageItems (s : Settings) (entity : Entity) {p : Projection}
    (h : Each Balanced p.items) {order : Checked (List String)}
    (k : Each Balanced order) :
    Each Balanced (pageItems s entity p order) := by
  have columns : Each Balanced
      (if p.names.isEmpty then pure [(ColumnRef.parse (entity.source ++ ".*")).render]
        else p.items) := by
    split
    next => exact .ok (by simpa using (ColumnRef.operand_render _).balanced)
    next => exact h
  refine columns.bind fun _ items => k.bind fun _ order => .ok fun x member => ?_
  rcases List.mem_append.1 member with item | number
  next => exact items x item
  next =>
    cases List.mem_singleton.1 number
    exact s.balanced_withAlias (operand_rowNumberText order).balanced _

theorem balanced_pageText (range : Nat × Nat) (outer : ∀ x ∈ xs, Balanced x) (h : Balanced a) :
    Balanced (pageText range xs a) := by
  have number (n : Nat) : Balanced (toString n) := balanced_number (consists_toString_nat n)
  have index : Balanced (Name.quote rowIndexColumn) := balanced_quote _
  have nested := (h.enclosed (by decide : Encloses "(" ")")).balanced
  have source := ((balanced_commaList outer).after (by decide : Joint "SELECT ")).between nested
    (by decide : Joint " FROM ")
  have whole := (((source.between index (by decide : Joint " t0 WHERE ")).between (number range.1)
    (by decide : Joint " BETWEEN ")).between (number range.2) (by decide : Joint " AND ")).between
      index (by decide : Joint " ORDER BY ")
  have opening : " FROM (" = " FROM " ++ "(" := by simp
  have closing : ") t0 WHERE " = ")" ++ " t0 WHERE " := by simp
  unfold pageText
  rw [opening, closing]
  simpa only [String.append_assoc] using whole

theorem all_pagedText (s : Settings) {head : QueryHead}
    (dotted : head.entity.all Entity.isDotted = true) {p : Projection}
    (h : Each Balanced p.items) {c : Clauses} (k : c.Balanced) :
    All Balanced (pagedText s head p c) := by
  rw [pagedText_eq]
  cases pageRange (head.skip.getD 0) (head.take.getD 0) with
  | error e => exact .error e
  | ok range =>
    cases source : head.entity with
    | none => exact .error _
    | some entity =>
      rw [source, Option.all_some] at dotted
      have inner := all_plainText head.distinct dotted (all_pageItems s entity h k.order)
        (⟨k.joins, k.filter, k.group, .ok (by simp)⟩ :
          Clauses.Balanced { c with order := .ok [] })
      exact (all_pageOuter p.names).bind fun _ outer => inner.bind fun _ inner =>
        .ok (balanced_pageText range outer inner)

theorem all_selectText (s : Settings) {head : QueryHead}
    (dotted : head.entity.all Entity.isDotted = true) {p : Projection}
    (h : Each Balanced p.items) {c : Clauses} (k : c.Balanced) :
    All Balanced (selectText s head p c) := by
  unfold selectText fixedText
  split
  next =>
    split
    next => exact .error _
    next => exact h.map fun _ items =>
      ((balanced_commaList items).after (by decide)).before (by decide)
  next =>
    split
    next => exact all_pagedText s dotted h k
    next =>
      cases source : head.entity with
      | none => exact .error _
      | some entity =>
        rw [source, Option.all_some] at dotted
        refine all_plainText head.distinct dotted ?_ k
        split
        next =>
          have columns := Name.balanced_quoteWords_append (Entity.isDotted_source dotted)
            (by decide : ∀ c ∈ ".*".toList, c = '.' ∨ c = '*')
          exact .ok (by simpa using columns)
        next => exact h

end OracleSql
