import OracleSql.Proofs.Query.Alike

set_option autoImplicit false

namespace OracleSql

open Sql Checked

variable {a b c d : String} {xs ys : List String}

theorem UnaryFunction.alike_apply (f : UnaryFunction) (h : Alike a b) :
    Alike (f.apply a) (f.apply b) := by
  have opening : Opening f.around.1 := by cases f <;> decide
  have closing : Closing f.around.2 := by cases f <;> decide +kernel
  exact h.around opening closing

theorem BinaryFunction.alike_apply (f : BinaryFunction) (h : Alike a b) (k : Alike c d) :
    Alike (f.apply a c) (f.apply b d) := by
  have opening : Opening f.around.1 := by cases f <;> decide
  have separates : Separator f.around.2.1 := by cases f <;> decide
  have closing : Closing f.around.2.2 := by cases f <;> decide
  exact ((h.after opening).between k separates).before closing

theorem Matcher.alike_apply (f : Matcher) (h : Alike a b) (k : Alike c d) :
    Alike (f.apply a c) (f.apply b d) := by
  have opening : Opening f.around.1 := by cases f <;> decide
  have separates : Separator f.around.2.1 := by cases f <;> decide
  have closing : Closing f.around.2.2 := by cases f <;> decide
  exact ((h.after opening).between k separates).before closing

theorem Matcher.alike_literal (f : Matcher) (offset : Int) {v w : Value} (hv : v.isInline = true)
    (hw : w.isInline = true) : Alike (f.literal offset v) (f.literal offset w) := by
  have even (u : Value) (inline : u.isInline = true) :
      Literal.EvenRuns (f.anchors.1 ++ Literal.ofValue offset true u ++ f.anchors.2) := by
    have first : Literal.EvenRuns f.anchors.1 := by cases f <;> decide
    have last : Literal.EvenRuns f.anchors.2 := by cases f <;> decide
    exact (first.append (Literal.evenRuns_ofValue offset u inline)).append last
  have enclosed := Literal.alike_enclosed (even v hv) (even w hw)
  simpa only [Matcher.literal, String.append_assoc] using enclosed

theorem Matcher.alike_computed (f : Matcher) (h : Alike a b) :
    Alike (f.computed a) (f.computed b) := by
  have anchor (text : String) (closed : ∀ item ∈ quotedAnchor text, Closed item) :
      List.Forall₂ Alike (quotedAnchor text) (quotedAnchor text) :=
    List.forall₂_same.2 fun item member => (closed item member).alike
  have first := anchor f.anchors.1 (by cases f <;> decide)
  have last := anchor f.anchors.2 (by cases f <;> decide)
  have items := List.rel_append (List.rel_append first (.cons h .nil)) last
  exact Alike.intercalate items (by decide)

theorem alike_extractText {s : Settings} (format : '\'' ∉ s.dateFormat.toList) (part : DatePart)
    (fromDocument : Bool) (h : Alike a b) :
    Alike (extractText s part fromDocument a) (extractText s part fromDocument b) := by
  cases fromDocument with
  | false =>
    have opening : Opening ("EXTRACT(" ++ part.keyword ++ " FROM ") := by cases part <;> decide
    exact h.around opening (by decide)
  | true =>
    have opening : Opening ("EXTRACT(" ++ part.keyword ++ " FROM TO_TIMESTAMP_TZ(") := by
      cases part <;> decide
    have even := Literal.hasEvenRuns_of_absent format
    have literal := (Literal.alike_enclosed even even).before (by decide : Closing "))")
    have split (x : String) : extractText s part true x =
        "EXTRACT(" ++ part.keyword ++ " FROM TO_TIMESTAMP_TZ(" ++ x ++ ", " ++
          ("'" ++ s.dateFormat ++ "'" ++ "))") := by
      -- The format stands in a literal of its own after the comma.
      have start : ", '" = ", " ++ "'" := by decide +kernel
      have rest : "'))" = "'" ++ "))" := by decide +kernel
      simp only [extractText, if_true, start, rest, String.append_assoc]
    rw [split, split]
    exact (h.after opening).between literal (by decide)

theorem both_substringText (start : Int) (length? : Option Int) (h : Alike a b) :
    Both Alike (substringText a start length?) (substringText b start length?) := by
  have number (n : Int) : Closing (toString n) := closing_of_bare (bare_toString_int n)
  have first := ((h.after (by decide : Opening "SUBSTR(")).before (by decide : Closing ",")).before
    (number (start + 1))
  unfold substringText
  split
  next =>
    cases length? with
    | some length =>
      exact .ok (((first.before (by decide)).before (number length)).before (by decide))
    | none => exact .ok (first.before (by decide))
  next => exact .error _

theorem alike_concatText (h : List.Forall₂ Alike xs ys) : Alike (concatText xs) (concatText ys) := by
  have items := List.rel_map (fun x y item => item.around (by decide : Opening "COALESCE(TO_CHAR(")
    (by decide : Closing "),'')")) h
  exact (Alike.intercalate items (by decide)).around (by decide) (by decide)

theorem alike_decimalText (precision scale : Option Nat) (h : Alike a b) :
    Alike (decimalText a precision scale) (decimalText b precision scale) := by
  have number (n : Nat) : Closing (toString n) := closing_of_bare (bare_toString_nat n)
  exact ((((h.around (by decide) (by decide)).before (number _)).before (by decide)).before
    (number _)).before (by decide)

theorem alike_roundText {x y : Option String} (h : Alike a b) (k : Option.Rel Alike x y) :
    Alike ("ROUND(" ++ a ++ "," ++ x.getD "0" ++ ")") ("ROUND(" ++ b ++ "," ++ y.getD "0" ++ ")") := by
  have digits : Alike (x.getD "0") (y.getD "0") := by
    cases k with
    | none => exact Closed.alike (by decide)
    | some digits => exact digits
  exact ((h.after (by decide)).between digits (by decide)).before (by decide)

theorem mem_of_mem_split {separator d : Char} {cs part : List Char}
    (h : part ∈ Text.split separator cs) (member : d ∈ part) : d ∈ cs := by
  induction cs generalizing part with
  | nil =>
    rw [Text.split, List.mem_singleton] at h
    simp [h] at member
  | cons c cs ih =>
    rw [Text.split] at h
    split at h
    next =>
      rcases List.mem_cons.1 h with rfl | later
      next => cases member
      next => exact List.mem_cons_of_mem c (ih later member)
    next =>
      split at h
      next first parts split =>
        rcases List.mem_cons.1 h with rfl | later
        next =>
          rcases List.mem_cons.1 member with rfl | inside
          next => exact List.mem_cons_self
          next => exact List.mem_cons_of_mem c (ih (by simp [split]) inside)
        next => exact List.mem_cons_of_mem c (ih (by simp [split, later]) member)
      next none => exact absurd none (Text.split_ne_nil separator cs)

theorem absent_of_mem_splitText {separator d : Char} {s part : String}
    (h : part ∈ Text.splitText separator s) (absent : d ∉ s.toList) : d ∉ part.toList := by
  obtain ⟨chars, inside, rfl⟩ := List.mem_map.1 h
  rw [String.toList_ofList]
  exact fun member => absent (mem_of_mem_split inside member)

theorem both_jsonGetText {path : String} (h : '\'' ∉ path.toList) :
    Both Alike (jsonGetText path) (jsonGetText path) := by
  -- A path is the same in both statements: only its property stands in a literal.
  unfold jsonGetText
  split
  next table column property rest parts =>
    have even : Literal.EvenRuns (".".intercalate (property :: rest)) := by
      refine Literal.EvenRuns.intercalate (by decide) fun part member => ?_
      have inside : part ∈ Text.splitText '.' path := by
        rw [parts]
        exact List.mem_cons_of_mem _ (List.mem_cons_of_mem _ member)
      exact Literal.hasEvenRuns_of_absent (absent_of_mem_splitText inside h)
    have property : Literal.EvenRuns ("$." ++ ".".intercalate (property :: rest)) :=
      Literal.EvenRuns.append (by decide) even
    have source := (Alike.quote table table).between (.quote column column)
      (by decide : Separator ".")
    have whole := ((source.after (by decide : Opening "JSON_VALUE(")).between
      (Literal.alike_enclosed property property) (by decide : Separator ", ")).before
        (by decide : Closing ")")
    have start : ", '$." = ", " ++ ("'" ++ "$.") := by decide +kernel
    have rest : "')" = "'" ++ ")" := by decide +kernel
    refine .ok ?_
    rw [start, rest]
    simpa only [String.append_assoc] using whole
  next => exact .error _
  next => exact .error _

theorem both_memberText (name? : Option String) {x y : Checked String} (h : Both Alike x y) :
    Both Alike (memberText name? x) (memberText (name?.map Name.shape) y) := by
  cases name? with
  | none => exact .error _
  | some name =>
    exact h.map fun _ _ value => (Literal.alike_escapeText _ _).between value (by decide)

theorem alike_objectText (h : List.Forall₂ Alike xs ys) : Alike (objectText xs) (objectText ys) :=
  (Alike.intercalate h (by decide)).around (by decide) (by decide)

theorem alike_arrayOfObjectsText (h : List.Forall₂ Alike xs ys) :
    Alike (arrayOfObjectsText xs) (arrayOfObjectsText ys) :=
  (alike_objectText h).around (by decide) (by decide)

theorem alike_arrayLiteral (offset : Int) (v : Value) :
    Alike (arrayLiteral offset v) (arrayLiteral offset v.shape) := by
  cases v with
  | array items => exact Literal.alike_escapeText _ _
  | null => exact Literal.alike_escape offset .null
  | bool b => exact Literal.alike_escape offset (.bool b)
  | int n => exact Literal.alike_escape offset (.int n)
  | float x => exact Literal.alike_escape offset (.float x)
  | text s => exact Literal.alike_escape offset (.text s)
  | instant t => exact Literal.alike_escape offset (.instant t)
  | blob bytes => exact Literal.alike_escape offset (.blob bytes)
  | object entries => exact Literal.alike_escape offset (.object entries)

theorem alike_commaList (h : List.Forall₂ Alike xs ys) : Alike (commaList xs) (commaList ys) :=
  Alike.intercalate h (by decide)

theorem alike_rowNumberText (h : List.Forall₂ Alike xs ys) :
    Alike (rowNumberText xs) (rowNumberText ys) := by
  unfold rowNumberText
  cases h with
  | nil => exact Closed.alike (by decide)
  | cons first rest => exact (alike_commaList (.cons first rest)).around (by decide) (by decide)

theorem alike_parenthesize (h : Alike a b) : Alike (parenthesize a) (parenthesize b) := by
  -- Parentheses are no quotes, so both texts have them at their ends or neither has.
  have same : (a.toList.head? = some '(' ∧ a.toList.getLast? = some ')') ↔
      (b.toList.head? = some '(' ∧ b.toList.getLast? = some ')') :=
    ⟨fun k => ⟨h.head?_eq (by decide) k.1, h.getLast?_eq (by decide) k.2⟩,
      fun k => ⟨h.symm.head?_eq (by decide) k.1, h.symm.getLast?_eq (by decide) k.2⟩⟩
  unfold parenthesize
  rw [if_congr same rfl rfl]
  split
  next => exact h
  next => exact h.around (by decide) (by decide)

theorem both_joinConditions {separator : String} (separates : Separator separator)
    (h : List.Forall₂ Alike xs ys) :
    Both Alike (joinConditions separator xs) (joinConditions separator ys) := by
  cases h with
  | nil => exact .error _
  | cons first rest =>
    cases rest with
    | nil => exact .ok first
    | cons second rest =>
      exact .ok ((Alike.intercalate (.cons first (.cons second rest)) separates).around
        (by decide) (by decide))

theorem both_comparisonText (op : Comparison) (right : Expr) {x y : Checked String}
    (h : Alike a b) (k : Both Alike x y) :
    Both Alike (comparisonText a op right x) (comparisonText b op right.shape y) := by
  have separates : Separator op.symbol := by cases op <;> decide
  have compared : Both Alike (x.map fun t => "(" ++ a ++ op.symbol ++ t ++ ")")
      (y.map fun t => "(" ++ b ++ op.symbol ++ t ++ ")") :=
    k.map fun _ _ right => ((h.after (by decide)).between right separates).before (by decide)
  by_cases null : right = .value .null
  next =>
    subst null
    cases op with
    | eq => exact .ok (h.around (by decide) (by decide))
    | ne => exact .ok (h.around (by decide) (by decide))
    | gt | gte | lt | lte => exact compared
  next =>
    -- Null is the only operand with that shape, so neither is written as a test for null.
    have other : right.shape ≠ .value .null := by
      intro same
      cases right with
      | value v => cases v <;> simp_all [Expr.shape, Value.shape]
      | column | call | select => simp [Expr.shape] at same
    have plain (e : Expr) (left : String) (z : Checked String) (h : e ≠ .value .null) :
        comparisonText left op e z = z.map fun t => "(" ++ left ++ op.symbol ++ t ++ ")" := by
      unfold comparisonText
      split
      next => exact absurd rfl h
      next => exact absurd rfl h
      next => rfl
    rw [plain right a x null, plain right.shape b y other]
    exact compared

theorem alike_membershipText (negated : Bool) (h : Alike a b) (k : Alike c d) :
    Alike (membershipText negated a c) (membershipText negated b d) := by
  cases negated with
  | true => exact ((h.after (by decide)).between k (by decide)).before (by decide)
  | false => exact ((h.after (by decide)).between k (by decide)).before (by decide)

end OracleSql
