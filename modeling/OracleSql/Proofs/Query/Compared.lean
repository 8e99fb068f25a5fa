import OracleSql.Proofs.Query.Grouping

set_option autoImplicit false

namespace OracleSql

open Sql Checked

structure Compared where
  left : Expr
  op : Comparison
  right : Expr

def Compared.render (s : Settings) (c : Compared) : Checked String :=
  (Predicate.compare c.left c.op c.right).render s

mutual

/-- What an empty list is compared with is not in the text, and neither are the conditions of a
query without an entity. -/
def Expr.comparisons : Expr → List Compared
  | .column _ | .value _ => []
  | .call f => f.comparisons
  | .select q => q.comparisons

def Call.comparisons : Call → List Compared
  | .unary _ e => e.comparisons
  | .binary _ a b => a.comparisons ++ b.comparisons
  | .matching _ source pattern => source.comparisons ++ pattern.comparisons
  | .extract _ e => e.comparisons
  | .now _ => []
  | .substring source _ _ => source.comparisons
  | .concat items => Expr.allComparisons items
  | .round e digits => e.comparisons ++ Expr.optionComparisons digits
  | .toDecimal e _ _ => e.comparisons
  | .jsonGet _ => []
  | .jsonObject members => Field.allComparisons members
  | .jsonArray e => e.comparisons
  | .jsonGroupArray e => e.comparisons
  | .cond condition yes no => condition.comparisons ++ (yes.comparisons ++ no.comparisons)
  | .uuid => []
  | .rowIndex order => OrderTerm.allComparisons order

def Expr.optionComparisons : Option Expr → List Compared
  | none => []
  | some e => e.comparisons

def Expr.allComparisons : List Expr → List Compared
  | [] => []
  | e :: rest => e.comparisons ++ Expr.allComparisons rest

def Field.allComparisons : List Field → List Compared
  | [] => []
  | ⟨e, _⟩ :: rest => e.comparisons ++ Field.allComparisons rest

def OrderTerm.allComparisons : List OrderTerm → List Compared
  | [] => []
  | ⟨e, _⟩ :: rest => e.comparisons ++ OrderTerm.allComparisons rest

def Predicate.comparisons : Predicate → List Compared
  | .and items => Predicate.allComparisons items
  | .or items => Predicate.allComparisons items
  | .not item => item.comparisons
  | .nor items => Predicate.allComparisons items
  | .compare left op right => ⟨left, op, right⟩ :: (left.comparisons ++ right.comparisons)
  | .oneOf _ e items =>
      if items.isEmpty then [] else e.comparisons ++ Expr.allComparisons items
  | .between e low high => e.comparisons ++ (low.comparisons ++ high.comparisons)
  | .holds e => e.comparisons

def Predicate.allComparisons : List Predicate → List Compared
  | [] => []
  | p :: rest => p.comparisons ++ Predicate.allComparisons rest

def Predicate.optionComparisons : Option Predicate → List Compared
  | none => []
  | some p => p.comparisons

def Join.allComparisons : List Join → List Compared
  | [] => []
  | ⟨_, _, condition⟩ :: rest => condition.comparisons ++ Join.allComparisons rest

def Query.comparisons : Query → List Compared
  | ⟨_, fields, fixed, _, filter, joins, order, group, _, _⟩ =>
      Field.allComparisons fields ++
        if fixed then []
        else
          Join.allComparisons joins ++ (Predicate.optionComparisons filter ++
            (Expr.allComparisons group ++ OrderTerm.allComparisons order))

end

def Part (a b : String) : Prop :=
  a.toList <:+: b.toList

namespace Part

variable {a b c : String} {xs : List String}

theorem refl (a : String) : Part a a :=
  List.infix_rfl

theorem trans (h : Part a b) (k : Part b c) : Part a c :=
  List.IsInfix.trans h k

theorem around (before a after : String) : Part a (before ++ a ++ after) :=
  ⟨before.toList, after.toList, by simp⟩

theorem left (a b : String) : Part a (a ++ b) :=
  ⟨[], b.toList, by simp⟩

theorem right (a b : String) : Part b (a ++ b) :=
  ⟨a.toList, [], by simp⟩

theorem join (h : a ∈ xs) : Part a (String.join xs) := by
  induction xs with
  | nil => cases h
  | cons x xs ih =>
    rw [String.join_cons]
    rcases List.mem_cons.1 h with rfl | later
    next => exact left a _
    next => exact (ih later).trans (right x _)

theorem pair (before a w b after : String) :
    ∀ x ∈ [a, b], Part x (before ++ a ++ w ++ b ++ after) := by
  have parts : before ++ a ++ w ++ b ++ after = String.join [before, a, w, b, after] := by
    simp [String.join_cons, String.append_assoc]
  rw [parts]
  exact fun x inside => join (by simp at inside ⊢; tauto)

theorem triple (before a v b w c after : String) :
    ∀ x ∈ [a, b, c], Part x (before ++ a ++ v ++ b ++ w ++ c ++ after) := by
  have parts : before ++ a ++ v ++ b ++ w ++ c ++ after =
      String.join [before, a, v, b, w, c, after] := by
    simp [String.join_cons, String.append_assoc]
  rw [parts]
  exact fun x inside => join (by simp at inside ⊢; tauto)

theorem intercalate (separator : String) (h : a ∈ xs) : Part a (separator.intercalate xs) := by
  induction xs with
  | nil => cases h
  | cons x xs ih =>
    cases xs with
    | nil =>
      rw [List.mem_singleton.1 h, String.intercalate_singleton]
      exact refl x
    | cons y xs =>
      rw [String.intercalate_cons_cons]
      rcases List.mem_cons.1 h with rfl | later
      next => exact (left a _).trans (left _ _)
      next => exact (ih later).trans (right _ _)

end Part

/-- Each of the comparisons has a text, and it is a part of one of these. -/
def Contains (s : Settings) (cs : List Compared) (xs : List String) : Prop :=
  ∀ c ∈ cs, ∃ text, c.render s = .ok text ∧ ∃ x ∈ xs, Part text x

namespace Contains

variable {s : Settings} {cs ds : List Compared} {xs ys : List String} {y : String}

theorem nil (xs : List String) : Contains s [] xs :=
  List.forall_mem_nil _

theorem append (h : Contains s cs xs) (k : Contains s ds ys) :
    Contains s (cs ++ ds) (xs ++ ys) := by
  intro c member
  rcases List.mem_append.1 member with first | second
  next =>
    obtain ⟨text, written, x, inside, part⟩ := h c first
    exact ⟨text, written, x, List.mem_append_left ys inside, part⟩
  next =>
    obtain ⟨text, written, x, inside, part⟩ := k c second
    exact ⟨text, written, x, List.mem_append_right xs inside, part⟩

theorem subset (h : Contains s cs xs) (fewer : ds ⊆ cs) : Contains s ds xs :=
  fun c member => h c (fewer member)

theorem into (h : Contains s cs xs) (parts : ∀ x ∈ xs, ∃ z ∈ ys, Part x z) :
    Contains s cs ys := by
  intro c member
  obtain ⟨text, written, x, inside, part⟩ := h c member
  obtain ⟨z, within, whole⟩ := parts x inside
  exact ⟨text, written, z, within, part.trans whole⟩

theorem whole (h : Contains s cs xs) (parts : ∀ x ∈ xs, Part x y) : Contains s cs [y] :=
  h.into fun x inside => ⟨y, List.mem_singleton_self y, parts x inside⟩

theorem around {a : String} (h : Contains s cs [a]) (before after : String) :
    Contains s cs [before ++ a ++ after] :=
  h.whole fun _ inside => List.mem_singleton.1 inside ▸ .around before a after

theorem intercalate (h : Contains s cs xs) (before separator after : String) :
    Contains s cs [before ++ separator.intercalate xs ++ after] :=
  h.whole fun _ inside => (Part.intercalate separator inside).trans (.around before _ after)

end Contains

variable {s : Settings} {cs ds : List Compared}

theorem contains_concatText {xs : List String} (h : Contains s cs xs) :
    Contains s cs [concatText xs] := by
  refine (h.into fun x inside => ⟨_, List.mem_map_of_mem inside, ?_⟩).intercalate "(" " || " ")"
  exact .around "COALESCE(TO_CHAR(" x "),'')"

theorem contains_rowNumberText {xs : List String} (h : Contains s cs xs) :
    Contains s cs [rowNumberText xs] := by
  unfold rowNumberText
  split
  next none =>
    rw [List.isEmpty_iff.1 none] at h
    exact h.whole (List.forall_mem_nil _)
  next => exact h.intercalate "ROW_NUMBER() OVER(ORDER BY " ", " ")"

theorem contains_parenthesize {a : String} (h : Contains s cs [a]) :
    Contains s cs ["NOT " ++ parenthesize a] := by
  unfold parenthesize
  split
  next => simpa using h.around "NOT " ""
  next => simpa using (h.around "(" ")").around "NOT " ""

theorem contains_joinConditions {xs : List String} (separator : String) (h : Contains s cs xs) :
    All (fun sql => Contains s cs [sql]) (joinConditions separator xs) := by
  unfold joinConditions
  split
  next => exact .error _
  next => exact .ok h
  next => exact .ok (h.intercalate "(" separator ")")

theorem contains_extractText {a : String} (part : DatePart) (fromDocument : Bool)
    (h : Contains s cs [a]) : Contains s cs [extractText s part fromDocument a] := by
  cases fromDocument with
  | false => exact h.around ("EXTRACT(" ++ part.keyword ++ " FROM ") ")"
  | true =>
    have all := h.around ("EXTRACT(" ++ part.keyword ++ " FROM TO_TIMESTAMP_TZ(")
      (", '" ++ s.dateFormat ++ "'))")
    simpa [extractText, String.append_assoc] using all

theorem contains_substringText {a : String} (start : Int) (length? : Option Int)
    (h : Contains s cs [a]) :
    All (fun sql => Contains s cs [sql]) (substringText a start length?) := by
  unfold substringText
  split
  next =>
    refine .ok ?_
    cases length? with
    | some length =>
      simpa [String.append_assoc] using
        h.around "SUBSTR(" ("," ++ toString (start + 1) ++ "," ++ toString length ++ ")")
    | none =>
      simpa [String.append_assoc] using h.around "SUBSTR(" ("," ++ toString (start + 1) ++ ")")
  next => exact .error _

theorem contains_roundText {a : String} {digits : Option String} (h : Contains s cs [a])
    (k : Contains s ds digits.toList) :
    Contains s (cs ++ ds) ["ROUND(" ++ a ++ "," ++ digits.getD "0" ++ ")"] := by
  cases digits with
  | none =>
    refine (h.append k).whole fun x inside => Part.pair "ROUND(" a "," "0" ")" x ?_
    exact List.mem_cons.2 (.inl (List.mem_singleton.1 inside))
  | some digits => exact (h.append k).whole (.pair _ _ _ _ _)

theorem contains_decimalText {a : String} (precision scale : Option Nat) (h : Contains s cs [a]) :
    Contains s cs [decimalText a precision scale] := by
  have parts : decimalText a precision scale = "CAST(" ++ a ++ (" AS DECIMAL(" ++
      toString (precision.getD 19) ++ "," ++ toString (scale.getD 8) ++ "))") := by
    unfold decimalText
    simp only [String.append_assoc]
  rw [parts]
  exact h.around _ _

theorem Matcher.contains_computed (f : Matcher) {a : String} (h : Contains s cs [a]) :
    Contains s cs [f.computed a] :=
  h.whole fun _ inside => List.mem_singleton.1 inside ▸ .intercalate " || " (by simp)

theorem contains_comparisonText {a : String} (op : Comparison) (right : Expr) {x : Checked String}
    (h : Contains s cs [a]) (k : All (fun sql => Contains s right.comparisons [sql]) x) :
    All (fun sql => Contains s (cs ++ right.comparisons) [sql]) (comparisonText a op right x) := by
  have alone : Contains s (cs ++ (Expr.value .null).comparisons) [a] := by
    simpa [Expr.comparisons] using h
  unfold comparisonText
  split
  next => exact .ok (by simpa [String.append_assoc] using alone.around "(" " IS NULL)")
  next => exact .ok (by simpa [String.append_assoc] using alone.around "(" " IS NOT NULL)")
  next => exact k.map fun _ right => (h.append right).whole (.pair _ _ _ _ _)

theorem contains_membershipText (negated : Bool) {a b : String} (h : Contains s cs [a])
    (k : Contains s ds [b]) : Contains s (cs ++ ds) [membershipText negated a b] := by
  cases negated with
  | true => exact (h.append k).whole (.pair "(NOT " _ " IN " _ ")")
  | false => exact (h.append k).whole (.pair "(" _ " IN " _ ")")

theorem all_contains_memberText (name? : Option String) {x : Checked String}
    (h : All (fun sql => Contains s cs [sql]) x) :
    All (fun sql => Contains s cs [sql]) (memberText name? x) := by
  cases name? with
  | none => exact .error _
  | some name =>
    refine h.map fun sql value => ?_
    simpa using value.around (Literal.escapeText name ++ ":") ""

theorem Settings.contains_withAlias (s : Settings) {a : String} (h : Contains s cs [a])
    (alias? : Option String) : Contains s cs [s.withAlias a alias?] := by
  cases alias? with
  | none => exact h
  | some name =>
    have all := h.around "" ((if s.aliasKeyword then " AS " else " ") ++ Name.quote name)
    simpa [Settings.withAlias, String.append_assoc] using all

theorem Predicate.contains_oneOf (negated : Bool) {e : Expr} {items : List Expr}
    (h : All (fun sql => Contains s e.comparisons [sql]) (e.render s))
    (all : All (Contains s (Expr.allComparisons items)) (Expr.renderAll s items)) :
    All (fun sql => Contains s (Predicate.oneOf negated e items).comparisons [sql])
      ((Predicate.oneOf negated e items).render s) := by
  rw [Predicate.render]
  refine h.bind fun a left => ?_
  have listed (xs : List String) (list : Contains s (Expr.allComparisons items) xs) :
      Contains s (e.comparisons ++ Expr.allComparisons items)
        [membershipText negated a ("(" ++ commaList xs ++ ")")] :=
    contains_membershipText negated left (list.intercalate "(" ", " ")")
  cases items with
  | nil => exact .ok (.nil _)
  | cons first rest =>
    cases rest with
    | cons second rest => cases first <;> exact all.map listed
    | nil =>
      cases first with
      | column | value | call => exact all.map listed
      | select q =>
        have nested : All (fun sql => Contains s (Expr.allComparisons [.select q])
            ["(" ++ sql ++ ")"]) (q.render s) := by
          intro sql written
          refine all ["(" ++ sql ++ ")"] ?_
          rw [Expr.renderAll, Expr.renderAll, Expr.render, written]
          rfl
        exact nested.map fun _ => contains_membershipText negated left

section Clauses

variable {xs : List String} {is js ws gs os : List Compared}

structure Clauses.Contains (s : Settings) (js ws gs os : List Compared) (c : Clauses) : Prop where
  joins : All (OracleSql.Contains s js) c.joins
  filter : All (fun x => OracleSql.Contains s ws x.toList) c.filter
  group : All (OracleSql.Contains s gs) c.group
  order : All (OracleSql.Contains s os) c.order

theorem contains_plainText (distinct : Bool) (entity : Entity) {items : Checked (List String)}
    (h : All (Contains s is) items) {c : Clauses} (k : c.Contains s js ws gs os) :
    All (fun sql => Contains s (is ++ (js ++ (ws ++ (gs ++ os)))) [sql])
      (plainText distinct entity items c) := by
  refine h.bind fun items hi => k.joins.bind fun joins hj => k.filter.bind fun filter hw =>
    k.group.bind fun group hg => k.order.bind fun order ho => .ok ?_
  have listed {xs : List String} {x : String} (keyword : String) (inside : x ∈ xs) :
      Part x (clauseText keyword xs) := by
    rw [clauseText, if_neg (by simpa using List.ne_nil_of_mem inside)]
    exact (Part.intercalate ", " inside).trans (.right keyword _)
  have columns := hi.whole (y := commaList items) fun x inside => Part.intercalate ", " inside
  have joined := hj.whole (y := String.join (joins.map (" " ++ ·))) fun x inside =>
    (Part.right " " x).trans (.join (List.mem_map_of_mem inside))
  have filtered := hw.whole (y := whereText filter) fun x inside => by
    rw [Option.mem_toList] at inside
    rw [inside]
    exact .right " WHERE " x
  have grouped := hg.whole fun x inside => listed " GROUP BY " inside
  have ordered := ho.whole fun x inside => listed " ORDER BY " inside
  refine (columns.append (joined.append (filtered.append (grouped.append ordered)))).whole ?_
  have parts : "SELECT " ++ (if distinct then "DISTINCT " else "") ++ commaList items ++
      " FROM " ++ entity.render ++ String.join (joins.map (" " ++ ·)) ++ whereText filter ++
      clauseText " GROUP BY " group ++ clauseText " ORDER BY " order =
        String.join ["SELECT ", (if distinct then "DISTINCT " else ""), commaList items,
          " FROM ", entity.render, String.join (joins.map (" " ++ ·)), whereText filter,
          clauseText " GROUP BY " group, clauseText " ORDER BY " order] := by
    simp only [String.join_cons, String.join_nil, String.append_empty, String.append_assoc]
  rw [parts]
  exact fun x inside => .join (by simp at inside ⊢; tauto)

theorem contains_pageItems (entity : Entity) {p : Projection} (h : All (Contains s is) p.items)
    (named : p.names = [] → is = []) {order : Checked (List String)}
    (k : All (Contains s os) order) :
    All (Contains s (is ++ os)) (pageItems s entity p order) := by
  have columns : All (Contains s is)
      (if p.names.isEmpty then pure [(ColumnRef.parse (entity.source ++ ".*")).render]
        else p.items) := by
    split
    next none =>
      rw [named (List.isEmpty_iff.1 none)]
      exact .ok (.nil _)
    next => exact h
  exact columns.bind fun _ items => k.bind fun _ order =>
    .ok (items.append (s.contains_withAlias (contains_rowNumberText order) _))

theorem contains_pageText (range : Nat × Nat) (outer : List String) {a : String}
    (h : Contains s cs [a]) : Contains s cs [pageText range outer a] := by
  have parts : pageText range outer a = "SELECT " ++ commaList outer ++ " FROM (" ++ a ++
      (") t0 WHERE " ++ Name.quote rowIndexColumn ++ " BETWEEN " ++ toString range.1 ++ " AND " ++
        toString range.2 ++ " ORDER BY " ++ Name.quote rowIndexColumn) := by
    unfold pageText
    simp only [String.append_assoc]
  rw [parts]
  exact h.around _ _

-- The order moves into the row number, so the inner query has none.
theorem contains_pagedText (head : QueryHead) {p : Projection} (h : All (Contains s is) p.items)
    (named : p.names = [] → is = []) {c : Clauses} (k : c.Contains s js ws gs os) :
    All (fun sql => Contains s (is ++ (js ++ (ws ++ (gs ++ os)))) [sql])
      (pagedText s head p c) := by
  rw [pagedText_eq]
  have moved : is ++ (js ++ (ws ++ (gs ++ os))) ⊆ is ++ os ++ (js ++ (ws ++ (gs ++ []))) := by
    intro x
    simp only [List.mem_append, List.append_nil]
    tauto
  cases pageRange (head.skip.getD 0) (head.take.getD 0) with
  | error e => exact .error e
  | ok range =>
    cases head.entity with
    | none => exact .error _
    | some entity =>
      have items := contains_pageItems entity h named k.order
      have inner := contains_plainText head.distinct entity items
        (⟨k.joins, k.filter, k.group, .ok (.nil [])⟩ :
          Clauses.Contains s js ws gs [] { c with order := .ok [] })
      have outer : All (fun _ => True) (pageOuter p.names) := fun _ _ => trivial
      exact outer.bind fun outer _ => inner.bind fun _ inner =>
        .ok (contains_pageText range outer (inner.subset moved))

theorem contains_selectText (head : QueryHead) {p : Projection} (h : All (Contains s is) p.items)
    (named : p.names = [] → is = []) {c : Clauses} (k : c.Contains s js ws gs os) :
    All (fun sql => Contains s
        (is ++ if head.fixed then [] else js ++ (ws ++ (gs ++ os))) [sql])
      (selectText s head p c) := by
  unfold selectText fixedText
  by_cases fixed : head.fixed = true
  next =>
    rw [if_pos fixed, if_pos fixed, List.append_nil]
    split
    next => exact .error _
    next => exact h.map fun _ items => items.intercalate "SELECT " ", " " FROM DUAL"
  next =>
    rw [if_neg fixed, if_neg fixed]
    split
    next => exact contains_pagedText head h named k
    next =>
      split
      next => exact .error _
      next entity _ =>
        refine contains_plainText head.distinct entity ?_ k
        split
        next none =>
          rw [named (List.isEmpty_iff.1 none)]
          exact .ok (.nil _)
        next => exact h

end Clauses

mutual

theorem Expr.contains_render (s : Settings) : ∀ e : Expr,
    All (fun sql => Contains s e.comparisons [sql]) (e.render s)
  | .column _ => .ok (.nil _)
  | .value _ => .ok (.nil _)
  | .call f => Call.contains_render s f
  | .select q => (Query.contains_render s q).map fun _ h => h.around "(" ")"

theorem Call.contains_render (s : Settings) : ∀ f : Call,
    All (fun sql => Contains s f.comparisons [sql]) (f.render s)
  | .unary f e => (Expr.contains_render s e).map fun _ h => h.around f.around.1 f.around.2
  | .binary f a b => (Expr.contains_render s a).bind fun _ ha =>
      (Expr.contains_render s b).bind fun _ hb => .ok ((ha.append hb).whole (.pair _ _ _ _ _))
  | .matching f source pattern => (Expr.contains_render s source).bind fun _ hs =>
      (Expr.contains_renderPattern s f pattern).bind fun _ hp =>
        .ok ((hs.append hp).whole (.pair _ _ _ _ _))
  | .extract part e => (Expr.contains_render s e).map fun _ => contains_extractText part _
  | .now _ => .ok (.nil _)
  | .substring source start length? => (Expr.contains_render s source).bind fun _ =>
      contains_substringText start length?
  | .concat items => by
      unfold Call.render
      split
      next => exact .error _
      next => exact (Expr.contains_renderAll s items).map fun _ => contains_concatText
  | .round e digits => (Expr.contains_renderOption s digits).bind fun digits hd =>
      (Expr.contains_render s e).bind fun _ he => .ok (contains_roundText he hd)
  | .toDecimal e precision scale => (Expr.contains_render s e).map fun _ =>
      contains_decimalText precision scale
  | .jsonGet _ => fun _ _ => .nil _
  | .jsonObject members => (Field.contains_renderMembers s members).map fun _ h =>
      h.intercalate "json_object(" "," ")"
  | .jsonArray e => Expr.contains_renderArray s e
  | .jsonGroupArray e => by
      cases e with
      | call f => cases f with
        | jsonObject members =>
          exact (Field.contains_renderMembers s members).map fun _ h =>
            (h.intercalate "json_object(" "," ")").around "JSON_ARRAYAGG(" ")"
        | _ => exact .error _
      | _ => exact .error _
  | .cond condition yes no => (Predicate.contains_render s condition).bind fun _ hc =>
      (Expr.contains_render s yes).bind fun _ hy => (Expr.contains_render s no).bind fun _ hn =>
        .ok ((hc.append (hy.append hn)).whole (.triple _ _ _ _ _ _ _))
  | .uuid => .ok (.nil _)
  | .rowIndex order => (OrderTerm.contains_renderAll s order).map fun _ => contains_rowNumberText

theorem Expr.contains_renderPattern (s : Settings) (f : Matcher) : ∀ e : Expr,
    All (fun sql => Contains s e.comparisons [sql]) (e.renderPattern s f)
  | .column _ => .ok (.nil _)
  | .value _ => .ok (.nil _)
  | .call g => (Call.contains_render s g).map fun _ => f.contains_computed
  | .select q => (Query.contains_render s q).map fun _ h => f.contains_computed (h.around "(" ")")

theorem Expr.contains_renderArray (s : Settings) : ∀ e : Expr,
    All (fun sql => Contains s e.comparisons [sql]) (e.renderArray s)
  | .column _ => .ok (.nil _)
  | .value _ => .ok (.nil _)
  | .call _ => .error _
  | .select ⟨entity, fields, fixed, distinct, filter, joins, order, group, skip, take⟩ => by
      have members : All (Contains s (Field.allComparisons fields))
          ((Field.renderMembers s fields).map fun members => [arrayOfObjectsText members]) :=
        (Field.contains_renderMembers s fields).map fun _ h =>
          (h.intercalate "json_object(" "," ")").around "JSON_ARRAYAGG(" ")"
      exact (contains_selectText ⟨entity, fixed, distinct, skip, take⟩ members
        (fun none => absurd none (List.cons_ne_nil _ _))
        ⟨Join.contains_renderAll s joins, Predicate.contains_renderOption s filter,
          Expr.contains_renderAll s group, OrderTerm.contains_renderAll s order⟩).map
        fun _ h => h.around "(" ")"

theorem Expr.contains_renderOption (s : Settings) : ∀ e? : Option Expr,
    All (fun x => Contains s (Expr.optionComparisons e?) x.toList) (Expr.renderOption s e?)
  | none => .ok (.nil _)
  | some e => (Expr.contains_render s e).map fun _ h => h

theorem Expr.contains_renderAll (s : Settings) : ∀ items : List Expr,
    All (Contains s (Expr.allComparisons items)) (Expr.renderAll s items)
  | [] => .ok (.nil _)
  | e :: rest => (Expr.contains_render s e).bind fun _ first =>
      (Expr.contains_renderAll s rest).bind fun _ rest => .ok (first.append rest)

theorem Field.contains_renderMembers (s : Settings) : ∀ members : List Field,
    All (Contains s (Field.allComparisons members)) (Field.renderMembers s members)
  | [] => .ok (.nil _)
  | ⟨e, alias?⟩ :: rest => by
      rw [Field.renderMembers]
      exact (all_contains_memberText _ (Expr.contains_render s e)).bind fun _ first =>
        (Field.contains_renderMembers s rest).bind fun _ rest => .ok (first.append rest)

theorem Field.contains_renderAll (s : Settings) : ∀ fields : List Field,
    All (Contains s (Field.allComparisons fields)) (Field.renderAll s fields)
  | [] => .ok (.nil _)
  | ⟨e, alias?⟩ :: rest => by
      have named : All (fun sql => Contains s e.comparisons [sql])
          (Field.render s ⟨e, alias?⟩) :=
        (Expr.contains_render s e).map fun _ h => s.contains_withAlias h _
      rw [Field.renderAll]
      exact named.bind fun _ first => (Field.contains_renderAll s rest).bind fun _ rest =>
        .ok (first.append rest)

theorem OrderTerm.contains_renderAll (s : Settings) : ∀ order : List OrderTerm,
    All (Contains s (OrderTerm.allComparisons order)) (OrderTerm.renderAll s order)
  | [] => .ok (.nil _)
  | ⟨e, direction⟩ :: rest => (Expr.contains_render s e).bind fun _ first =>
      (OrderTerm.contains_renderAll s rest).bind fun _ rest =>
        .ok ((by simpa [String.append_assoc] using first.around "" (" " ++ direction.keyword) :
          Contains s _ [_]).append rest)

theorem Predicate.contains_render (s : Settings) : ∀ p : Predicate,
    All (fun sql => Contains s p.comparisons [sql]) (p.render s)
  | .and items => (Predicate.contains_renderAll s items).bind fun _ =>
      contains_joinConditions " AND "
  | .or items => (Predicate.contains_renderAll s items).bind fun _ =>
      contains_joinConditions " OR "
  | .not item => (Predicate.contains_render s item).map fun _ => contains_parenthesize
  | .nor items => (Predicate.contains_renderAll s items).bind fun _ h =>
      (contains_joinConditions " OR " h).bind fun _ h => .ok (contains_parenthesize h)
  | .compare left op right => by
      have parts : All (fun sql => Contains s (left.comparisons ++ right.comparisons) [sql])
          ((Predicate.compare left op right).render s) :=
        (Expr.contains_render s left).bind fun _ h =>
          contains_comparisonText op right h (Expr.contains_render s right)
      exact fun sql written => List.forall_mem_cons.2
        ⟨⟨sql, written, sql, List.mem_singleton_self sql, .refl sql⟩, parts sql written⟩
  | .oneOf negated e items => Predicate.contains_oneOf negated (Expr.contains_render s e)
      (Expr.contains_renderAll s items)
  | .between e low high => (Expr.contains_render s e).bind fun _ he =>
      (Expr.contains_render s low).bind fun _ hl => (Expr.contains_render s high).bind fun _ hh =>
        .ok ((he.append (hl.append hh)).whole (.triple _ _ _ _ _ _ _))
  | .holds e => Expr.contains_render s e

theorem Predicate.contains_renderAll (s : Settings) : ∀ items : List Predicate,
    All (Contains s (Predicate.allComparisons items)) (Predicate.renderAll s items)
  | [] => .ok (.nil _)
  | p :: rest => (Predicate.contains_render s p).bind fun _ first =>
      (Predicate.contains_renderAll s rest).bind fun _ rest => .ok (first.append rest)

theorem Predicate.contains_renderOption (s : Settings) : ∀ p? : Option Predicate,
    All (fun x => Contains s (Predicate.optionComparisons p?) x.toList)
      (Predicate.renderOption s p?)
  | none => .ok (.nil _)
  | some p => (Predicate.contains_render s p).map fun _ h => h

theorem Join.contains_renderAll (s : Settings) : ∀ joins : List Join,
    All (Contains s (Join.allComparisons joins)) (Join.renderAll s joins)
  | [] => .ok (.nil _)
  | ⟨kind, entity, condition⟩ :: rest => (Predicate.contains_render s condition).bind
      fun _ first => (Join.contains_renderAll s rest).bind fun _ rest =>
        .ok ((by simpa using first.around (kind.keyword ++ " " ++ entity.render ++ " ON ") "" :
          Contains s _ [_]).append rest)

theorem Query.contains_render (s : Settings) : ∀ q : Query,
    All (fun sql => Contains s q.comparisons [sql]) (q.render s)
  | ⟨entity, fields, fixed, distinct, filter, joins, order, group, skip, take⟩ => by
      have named (none : fields.map Field.outputName = []) : Field.allComparisons fields = [] := by
        rw [List.map_eq_nil_iff.1 none, Field.allComparisons]
      exact contains_selectText ⟨entity, fixed, distinct, skip, take⟩
        (Field.contains_renderAll s fields) named
        ⟨Join.contains_renderAll s joins, Predicate.contains_renderOption s filter,
          Expr.contains_renderAll s group, OrderTerm.contains_renderAll s order⟩

end

end OracleSql
