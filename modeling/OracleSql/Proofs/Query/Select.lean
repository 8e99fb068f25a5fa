import OracleSql.Proofs.Query.Clause

set_option autoImplicit false

namespace OracleSql

open Sql Checked

variable {a b c d : String} {xs ys : List String}

structure Follows (x y : String) : Prop where
  alike : Alike x y
  left : StartsPlain x
  right : StartsPlain y

namespace Follows

theorem empty : Follows "" "" :=
  ⟨Closed.alike (by decide), by decide, by decide⟩

theorem append (h : Follows a b) (k : Follows c d) : Follows (a ++ c) (b ++ d) :=
  ⟨h.alike.append_of_apart k.alike (.inr ⟨k.left, k.right⟩), h.left.append k.left,
    h.right.append k.right⟩

theorem keyword {word : String} (separates : Separator word) (h : Alike a b) :
    Follows (word ++ a) (word ++ b) :=
  ⟨h.after separates.opening, startsPlain_append_of_ne a separates.closing.plain separates.some,
    startsPlain_append_of_ne b separates.closing.plain separates.some⟩

theorem whereText {x y : Option String} (h : Option.Rel Alike x y) :
    Follows (OracleSql.whereText x) (OracleSql.whereText y) := by
  cases h with
  | none => exact empty
  | some condition => exact keyword (by decide) condition

theorem clauseText {word : String} (separates : Separator word) (h : List.Forall₂ Alike xs ys) :
    Follows (OracleSql.clauseText word xs) (OracleSql.clauseText word ys) := by
  cases h with
  | nil => exact empty
  | cons first rest => exact keyword separates (alike_commaList (.cons first rest))

theorem joins (h : List.Forall₂ Alike xs ys) :
    Follows (String.join (xs.map (" " ++ ·))) (String.join (ys.map (" " ++ ·))) := by
  induction h with
  | nil => exact empty
  | cons first _ ih =>
    rw [List.map_cons, List.map_cons, String.join_cons, String.join_cons]
    exact (keyword (by decide) first).append ih

end Follows

theorem Sql.Alike.followed (h : Alike a b) (k : Follows c d) : Alike (a ++ c) (b ++ d) :=
  h.append_of_apart k.alike (.inr ⟨k.left, k.right⟩)

structure Projection.Alike (p q : Projection) : Prop where
  names : q.names = p.names.map (Option.map Name.shape)
  items : Both (List.Forall₂ Sql.Alike) p.items q.items

structure Clauses.Alike (c d : Clauses) : Prop where
  joins : Both (List.Forall₂ Sql.Alike) c.joins d.joins
  filter : Both (Option.Rel Sql.Alike) c.filter d.filter
  group : Both (List.Forall₂ Sql.Alike) c.group d.group
  order : Both (List.Forall₂ Sql.Alike) c.order d.order

theorem both_plainText (distinct : Bool) {entity : Entity} (dotted : entity.isDotted = true)
    {x y : Checked (List String)} (items : Both (List.Forall₂ Alike) x y) {c d : Clauses}
    (h : c.Alike d) :
    Both Alike (plainText distinct entity x c) (plainText distinct entity y d) := by
  have opening : Opening ("SELECT " ++ (if distinct then "DISTINCT " else "")) := by
    cases distinct <;> decide
  -- The clauses are written in this order, and the first fault is the one that counts.
  refine items.bind fun _ _ items => h.joins.bind fun _ _ joins => h.filter.bind fun _ _ filter =>
    h.group.bind fun _ _ group => h.order.bind fun _ _ order => .ok ?_
  have columns := (alike_commaList items).after opening
  have source := columns.between (Entity.closed_render dotted).alike (by decide : Separator " FROM ")
  exact (((source.followed (.joins joins)).followed (.whereText filter)).followed
    (.clauseText (by decide) group)).followed (.clauseText (by decide) order)

theorem both_pageNames (names : List (Option String)) :
    Both (List.Forall₂ Alike) (names.mapM pageName)
      ((names.map (Option.map Name.shape)).mapM pageName) := by
  induction names with
  | nil => exact .ok .nil
  | cons name? rest ih =>
    rw [List.map_cons, List.mapM_cons, List.mapM_cons]
    have first : Both Alike (pageName name?) (pageName (name?.map Name.shape)) := by
      cases name? with
      | none => exact .error _
      | some name => exact .ok (Name.alike_starred name)
    exact first.bind fun _ _ first => ih.bind fun _ _ rest => .ok (.cons first rest)

def pageItems (s : Settings) (entity : Entity) (p : Projection) (order : Checked (List String)) :
    Checked (List String) :=
  (if p.names.isEmpty then pure [(ColumnRef.parse (entity.source ++ ".*")).render] else p.items)
    >>= fun items => order >>= fun order =>
      pure (items ++ [s.withAlias (rowNumberText order) (some rowIndexColumn)])

def pageOuter (names : List (Option String)) : Checked (List String) :=
  if names.isEmpty then pure ["*"] else names.mapM pageName

def pageText (range : Nat × Nat) (outer : List String) (inner : String) : String :=
  "SELECT " ++ commaList outer ++ " FROM (" ++ inner ++ ") t0 WHERE " ++ Name.quote rowIndexColumn ++
    " BETWEEN " ++ toString range.1 ++ " AND " ++ toString range.2 ++ " ORDER BY " ++
    Name.quote rowIndexColumn

theorem pagedText_eq (s : Settings) (head : QueryHead) (p : Projection) (c : Clauses) :
    pagedText s head p c = pageRange (head.skip.getD 0) (head.take.getD 0) >>= fun range =>
      match head.entity with
      | none => .error .missingEntity
      | some entity => pageOuter p.names >>= fun outer =>
          plainText head.distinct entity (pageItems s entity p c.order)
            { c with order := .ok [] } >>= fun inner => pure (pageText range outer inner) := by
  unfold pagedText pageOuter pageItems pageText
  cases pageRange (head.skip.getD 0) (head.take.getD 0) with
  | error e => rfl
  | ok range =>
    cases head.entity with
    | none => rfl
    | some entity => cases p.names.isEmpty <;> rfl

theorem both_pageOuter (names : List (Option String)) :
    Both (List.Forall₂ Alike) (pageOuter names)
      (pageOuter (names.map (Option.map Name.shape))) := by
  unfold pageOuter
  rw [List.isEmpty_map]
  split
  next => exact .ok (.cons (Closed.alike (by decide)) .nil)
  next => exact both_pageNames names

theorem both_pageItems (s : Settings) (entity : Entity) {p q : Projection} (h : p.Alike q)
    {x y : Checked (List String)} (order : Both (List.Forall₂ Alike) x y) :
    Both (List.Forall₂ Alike) (pageItems s entity p x) (pageItems s entity q y) := by
  have separates : Separator (if s.aliasKeyword then " AS " else " ") := by
    split
    next => decide
    next => decide
  have columns : Both (List.Forall₂ Alike)
      (if p.names.isEmpty then pure [(ColumnRef.parse (entity.source ++ ".*")).render]
        else p.items)
      (if q.names.isEmpty then pure [(ColumnRef.parse (entity.source ++ ".*")).render]
        else q.items) := by
    rw [h.names, List.isEmpty_map]
    split
    next => exact .ok (.cons (ColumnRef.closed_render _).alike .nil)
    next => exact h.items
  refine columns.bind fun _ _ items => order.bind fun _ _ order => .ok ?_
  have number := (alike_rowNumberText order).between (.quote rowIndexColumn rowIndexColumn) separates
  exact List.rel_append items (.cons number .nil)

theorem alike_pageText (range : Nat × Nat) (outer : List.Forall₂ Alike xs ys) (inner : Alike a b) :
    Alike (pageText range xs a) (pageText range ys b) := by
  have number (n : Nat) : Closing (toString n) := closing_of_bare (bare_toString_nat n)
  have index := Alike.quote rowIndexColumn rowIndexColumn
  have nested := ((alike_commaList outer).after (by decide : Opening "SELECT ")).between inner
    (by decide : Separator " FROM (")
  exact (((((nested.between index (by decide)).before (by decide)).before (number _)).before
    (by decide)).before (number _)).between index (by decide)

theorem both_pagedText (s : Settings) {head : QueryHead}
    (dotted : head.entity.all Entity.isDotted = true) {p q : Projection} (h : p.Alike q)
    {c d : Clauses} (k : c.Alike d) :
    Both Alike (pagedText s head p c) (pagedText s head q d) := by
  rw [pagedText_eq, pagedText_eq]
  cases pageRange (head.skip.getD 0) (head.take.getD 0) with
  | error e => exact .error e
  | ok range =>
    cases source : head.entity with
    | none => exact .error _
    | some entity =>
      rw [source, Option.all_some] at dotted
      have outer := both_pageOuter p.names
      rw [← h.names] at outer
      -- The order moves into the row number, so the inner query has none.
      have inner := both_plainText head.distinct dotted (both_pageItems s entity h k.order)
        (⟨k.joins, k.filter, k.group, .ok .nil⟩ :
          Clauses.Alike { c with order := .ok [] } { d with order := .ok [] })
      exact outer.bind fun _ _ outer => inner.bind fun _ _ inner =>
        .ok (alike_pageText range outer inner)

theorem both_fixedText {p q : Projection} (h : p.Alike q) :
    Both Alike (fixedText p) (fixedText q) := by
  have empty : q.names.isEmpty = p.names.isEmpty := by rw [h.names, List.isEmpty_map]
  unfold fixedText
  rw [empty]
  split
  next => exact .error _
  next => exact h.items.map fun _ _ items => (alike_commaList items).around (by decide) (by decide)

theorem both_selectText (s : Settings) {head : QueryHead}
    (dotted : head.entity.all Entity.isDotted = true) {p q : Projection} (h : p.Alike q)
    {c d : Clauses} (k : c.Alike d) :
    Both Alike (selectText s head p c) (selectText s head q d) := by
  unfold selectText
  by_cases fixed : head.fixed = true
  next =>
    rw [if_pos fixed, if_pos fixed]
    exact both_fixedText h
  next =>
    rw [if_neg fixed, if_neg fixed]
    by_cases paged : 0 < head.take.getD 0
    next =>
      rw [if_pos paged, if_pos paged]
      exact both_pagedText s dotted h k
    next =>
      rw [if_neg paged, if_neg paged]
      cases source : head.entity with
      | none => exact .error _
      | some entity =>
        rw [source, Option.all_some] at dotted
        refine both_plainText head.distinct dotted ?_ k
        rw [h.names, List.isEmpty_map]
        split
        next =>
          -- Without fields every column of the entity is taken.
          have columns := Name.closed_quoteWords_append (Entity.isDotted_source dotted)
            (by decide +kernel : ∀ c ∈ ".*".toList, Name.isWordChar c = true ∨ IsPlain c)
          exact .ok (.cons columns.alike .nil)
        next => exact h.items

end OracleSql
