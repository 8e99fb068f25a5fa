import OracleSql.Proofs.Query.Select

set_option autoImplicit false

namespace OracleSql

open Sql Checked

variable {s : Settings}

theorem Expr.isJsonGet_shape (e : Expr) : e.shape.isJsonGet = e.isJsonGet := by
  cases e with
  | call f => cases f <;> rfl
  | column | value | select => rfl

theorem Expr.length_shapeAll (items : List Expr) :
    (Expr.shapeAll items).length = items.length := by
  induction items with
  | nil => rfl
  | cons e rest ih => rw [Expr.shapeAll, List.length_cons, List.length_cons, ih]

theorem Predicate.both_oneOf (negated : Bool) {e : Expr} {items : List Expr}
    (h : Both Alike (e.render s) (e.shape.render s))
    (all : Both (List.Forall₂ Alike) (Expr.renderAll s items)
      (Expr.renderAll s (Expr.shapeAll items))) :
    Both Alike ((Predicate.oneOf negated e items).render s)
      ((Predicate.oneOf negated e items).shape.render s) := by
  have listed {a b : String} (left : Alike a b) (xs ys : List String)
      (list : List.Forall₂ Alike xs ys) :
      Alike (membershipText negated a ("(" ++ commaList xs ++ ")"))
        (membershipText negated b ("(" ++ commaList ys ++ ")")) :=
    alike_membershipText negated left ((alike_commaList list).around (by decide) (by decide))
  have empty : Closed (emptyMembership negated) := by cases negated <;> decide
  rw [Predicate.shape, Predicate.render, Predicate.render]
  refine h.bind fun a b left => ?_
  cases items with
  | nil => exact .ok empty.alike
  | cons first rest =>
    cases rest with
    | cons second rest => cases first <;> exact all.map (listed left)
    | nil =>
      cases first with
      | column c => exact all.map (listed left)
      | value v => exact all.map (listed left)
      | call f => exact all.map (listed left)
      | select q =>
        -- a nested query brings its own parentheses
        have single (t : String) (p : Query) :
            (p.render s).map (fun sql => membershipText negated t ("(" ++ sql ++ ")")) =
              (Expr.renderAll s [.select p]).map fun items =>
                membershipText negated t (commaList items) := by
          rw [Expr.renderAll, Expr.renderAll, Expr.render]
          cases p.render s with
          | error e => rfl
          | ok sql => simp [commaList, Except.map, bind, Except.bind, pure, Except.pure]
        show Both Alike ((q.render s).map _) ((q.shape.render s).map _)
        rw [single, single]
        exact all.map fun _ _ list => alike_membershipText negated left (alike_commaList list)

mutual

theorem Expr.both_render (format : '\'' ∉ s.dateFormat.toList) : ∀ e : Expr, e.isTame = true →
    Both Alike (e.render s) (e.shape.render s)
  | .column c, _ => .ok c.alike_render
  | .value v, _ => .ok (Literal.alike_escape s.offset v)
  | .call f, tame => Call.both_render format f tame
  | .select q, tame =>
      (Query.both_render format q tame).map fun _ _ sql => sql.around (by decide) (by decide)

theorem Call.both_render (format : '\'' ∉ s.dateFormat.toList) : ∀ f : Call, f.isTame = true →
    Both Alike (f.render s) (f.shape.render s)
  | .unary f e, tame => (Expr.both_render format e tame).map fun _ _ => f.alike_apply
  | .binary f a b, tame => by
      have parts := Bool.and_eq_true_iff.1 tame
      exact (Expr.both_render format a parts.1).bind fun _ _ a =>
        (Expr.both_render format b parts.2).bind fun _ _ b => .ok (f.alike_apply a b)
  | .matching f source pattern, tame => by
      have parts := Bool.and_eq_true_iff.1 tame
      exact (Expr.both_render format source parts.1).bind fun _ _ source =>
        (Expr.both_renderPattern format f pattern parts.2).bind fun _ _ pattern =>
          .ok (f.alike_apply source pattern)
  | .extract part e, tame => by
      -- What is extracted from a document is converted first, in both statements or in neither.
      rw [Call.shape, Call.render, Call.render, Expr.isJsonGet_shape]
      exact (Expr.both_render format e tame).map fun _ _ =>
        alike_extractText format part e.isJsonGet
  | .now clock, _ => by
      have closed : Closed clock.text := by cases clock <;> decide
      exact .ok closed.alike
  | .substring source start length?, tame =>
      (Expr.both_render format source tame).bind fun _ _ => both_substringText start length?
  | .concat items, tame => by
      -- Too few items are refused by their number, which the shape keeps.
      rw [Call.shape, Call.render, Call.render, Expr.length_shapeAll]
      split
      next => exact .error _
      next => exact (Expr.both_renderAll format items tame).map fun _ _ => alike_concatText
  | .round e digits, tame => by
      have parts := Bool.and_eq_true_iff.1 tame
      exact (Expr.both_renderOption format digits parts.2).bind fun _ _ digits =>
        (Expr.both_render format e parts.1).bind fun _ _ e => .ok (alike_roundText e digits)
  | .toDecimal e precision scale, tame =>
      (Expr.both_render format e tame).map fun _ _ => alike_decimalText precision scale
  | .jsonGet path, tame => both_jsonGetText (by simpa [Call.isTame] using tame)
  | .jsonObject members, tame =>
      (Field.both_renderMembers format members tame).map fun _ _ => alike_objectText
  | .jsonArray e, tame => Expr.both_renderArray format e tame
  | .jsonGroupArray e, tame => by
      cases e with
      | call f => cases f with
        | jsonObject members =>
          exact (Field.both_renderMembers format members tame).map fun _ _ =>
            alike_arrayOfObjectsText
        | _ => exact .error _
      | _ => exact .error _
  | .cond condition yes no, tame => by
      have parts := Bool.and_eq_true_iff.1 tame
      have first := Bool.and_eq_true_iff.1 parts.1
      exact (Predicate.both_render format condition first.1).bind fun _ _ condition =>
        (Expr.both_render format yes first.2).bind fun _ _ yes =>
          (Expr.both_render format no parts.2).bind fun _ _ no =>
            .ok ((((condition.after (by decide)).between yes (by decide)).between no
              (by decide)).before (by decide))
  | .uuid, _ => .ok (Closed.alike (by decide +kernel))
  | .rowIndex order, tame =>
      (OrderTerm.both_renderAll format order tame).map fun _ _ => alike_rowNumberText

theorem Expr.both_renderPattern (format : '\'' ∉ s.dateFormat.toList) (f : Matcher) :
    ∀ e : Expr, e.isPatternTame = true →
      Both Alike (e.renderPattern s f) (e.shape.renderPattern s f)
  | .column c, _ => .ok (f.alike_computed c.alike_render)
  | .value v, tame => .ok (f.alike_literal s.offset tame ((Value.isInline_shape v).trans tame))
  | .call g, tame => (Call.both_render format g tame).map fun _ _ => f.alike_computed
  | .select q, tame => (Query.both_render format q tame).map fun _ _ sql =>
      f.alike_computed (sql.around (by decide) (by decide))

theorem Expr.both_renderArray (format : '\'' ∉ s.dateFormat.toList) : ∀ e : Expr, e.isTame = true →
    Both Alike (e.renderArray s) (e.shape.renderArray s)
  | .column c, _ => .ok c.alike_render
  | .value v, _ => .ok (alike_arrayLiteral s.offset v)
  | .call _, _ => .error _
  | .select ⟨entity, fields, fixed, distinct, filter, joins, order, group, skip, take⟩, tame => by
      simp only [Expr.isTame, Query.isTame, Bool.and_eq_true] at tame
      obtain ⟨⟨⟨⟨⟨entity, fields⟩, filter⟩, joins⟩, order⟩, group⟩ := tame
      have members := (Field.both_renderMembers format _ fields).map fun _ _ members =>
        List.Forall₂.cons (alike_arrayOfObjectsText members) .nil
      exact (both_selectText s entity ⟨rfl, members⟩
        ⟨Join.both_renderAll format _ joins, Predicate.both_renderOption format _ filter,
          Expr.both_renderAll format _ group, OrderTerm.both_renderAll format _ order⟩).map
        fun _ _ sql => sql.around (by decide) (by decide)

theorem Expr.both_renderOption (format : '\'' ∉ s.dateFormat.toList) :
    ∀ e? : Option Expr, Expr.optionTame e? = true →
      Both (Option.Rel Alike) (Expr.renderOption s e?) (Expr.renderOption s (Expr.shapeOption e?))
  | none, _ => .ok .none
  | some e, tame => (Expr.both_render format e tame).map fun _ _ => .some

theorem Expr.both_renderAll (format : '\'' ∉ s.dateFormat.toList) :
    ∀ items : List Expr, Expr.allTame items = true →
      Both (List.Forall₂ Alike) (Expr.renderAll s items) (Expr.renderAll s (Expr.shapeAll items))
  | [], _ => .ok .nil
  | e :: rest, tame => by
      have parts := Bool.and_eq_true_iff.1 tame
      exact (Expr.both_render format e parts.1).bind fun _ _ first =>
        (Expr.both_renderAll format rest parts.2).bind fun _ _ rest => .ok (.cons first rest)

theorem Field.both_renderMembers (format : '\'' ∉ s.dateFormat.toList) :
    ∀ members : List Field, Field.allTame members = true →
      Both (List.Forall₂ Alike) (Field.renderMembers s members)
        (Field.renderMembers s (Field.shapeAll members))
  | [], _ => .ok .nil
  | ⟨e, alias?⟩ :: rest, tame => by
      have parts := Bool.and_eq_true_iff.1 tame
      rw [Field.shapeAll, Field.shape, Field.renderMembers, Field.renderMembers,
        Field.outputName_shape]
      exact (both_memberText _ (Expr.both_render format e parts.1)).bind fun _ _ first =>
        (Field.both_renderMembers format rest parts.2).bind fun _ _ rest => .ok (.cons first rest)

theorem Field.both_renderAll (format : '\'' ∉ s.dateFormat.toList) :
    ∀ fields : List Field, Field.allTame fields = true →
      Both (List.Forall₂ Alike) (Field.renderAll s fields)
        (Field.renderAll s (Field.shapeAll fields))
  | [], _ => .ok .nil
  | ⟨e, alias?⟩ :: rest, tame => by
      have parts := Bool.and_eq_true_iff.1 tame
      rw [Field.shapeAll, Field.shape, Field.renderAll, Field.renderAll, Field.render, Field.render,
        Settings.printedAlias_shape]
      exact ((Expr.both_render format e parts.1).map fun _ _ sql => s.alike_withAlias sql _).bind
        fun _ _ first => (Field.both_renderAll format rest parts.2).bind fun _ _ rest =>
          .ok (.cons first rest)

theorem OrderTerm.both_renderAll (format : '\'' ∉ s.dateFormat.toList) :
    ∀ order : List OrderTerm, OrderTerm.allTame order = true →
      Both (List.Forall₂ Alike) (OrderTerm.renderAll s order)
        (OrderTerm.renderAll s (OrderTerm.shapeAll order))
  | [], _ => .ok .nil
  | ⟨e, direction⟩ :: rest, tame => by
      have parts := Bool.and_eq_true_iff.1 tame
      have closing : Closing direction.keyword := by cases direction <;> decide
      exact (Expr.both_render format e parts.1).bind fun _ _ first =>
        (OrderTerm.both_renderAll format rest parts.2).bind fun _ _ rest =>
          .ok (.cons ((first.before (by decide)).before closing) rest)

theorem Predicate.both_render (format : '\'' ∉ s.dateFormat.toList) :
    ∀ p : Predicate, p.isTame = true → Both Alike (p.render s) (p.shape.render s)
  | .and items, tame =>
      (Predicate.both_renderAll format items tame).bind fun _ _ => both_joinConditions (by decide)
  | .or items, tame =>
      (Predicate.both_renderAll format items tame).bind fun _ _ => both_joinConditions (by decide)
  | .not item, tame => (Predicate.both_render format item tame).map fun _ _ sql =>
      (alike_parenthesize sql).after (by decide)
  | .nor items, tame => by
      exact (Predicate.both_renderAll format items tame).bind fun _ _ items =>
        (both_joinConditions (by decide) items).bind fun _ _ sql =>
          .ok ((alike_parenthesize sql).after (by decide))
  | .compare left op right, tame => by
      have parts := Bool.and_eq_true_iff.1 tame
      exact (Expr.both_render format left parts.1).bind fun _ _ left =>
        both_comparisonText op right left (Expr.both_render format right parts.2)
  | .oneOf negated e items, tame => by
      have parts := Bool.and_eq_true_iff.1 tame
      exact Predicate.both_oneOf negated (Expr.both_render format e parts.1)
        (Expr.both_renderAll format items parts.2)
  | .between e low high, tame => by
      have parts := Bool.and_eq_true_iff.1 tame
      have first := Bool.and_eq_true_iff.1 parts.1
      exact (Expr.both_render format e first.1).bind fun _ _ e =>
        (Expr.both_render format low first.2).bind fun _ _ low =>
          (Expr.both_render format high parts.2).bind fun _ _ high =>
            .ok ((((e.after (by decide)).between low (by decide)).between high (by decide)).before
              (by decide))
  | .holds e, tame => Expr.both_render format e tame

theorem Predicate.both_renderAll (format : '\'' ∉ s.dateFormat.toList) :
    ∀ items : List Predicate, Predicate.allTame items = true →
      Both (List.Forall₂ Alike) (Predicate.renderAll s items)
        (Predicate.renderAll s (Predicate.shapeAll items))
  | [], _ => .ok .nil
  | p :: rest, tame => by
      have parts := Bool.and_eq_true_iff.1 tame
      exact (Predicate.both_render format p parts.1).bind fun _ _ first =>
        (Predicate.both_renderAll format rest parts.2).bind fun _ _ rest => .ok (.cons first rest)

theorem Predicate.both_renderOption (format : '\'' ∉ s.dateFormat.toList) :
    ∀ p? : Option Predicate, Predicate.optionTame p? = true →
      Both (Option.Rel Alike) (Predicate.renderOption s p?)
        (Predicate.renderOption s (Predicate.shapeOption p?))
  | none, _ => .ok .none
  | some p, tame => (Predicate.both_render format p tame).map fun _ _ => .some

theorem Join.both_renderAll (format : '\'' ∉ s.dateFormat.toList) :
    ∀ joins : List Join, Join.allTame joins = true →
      Both (List.Forall₂ Alike) (Join.renderAll s joins) (Join.renderAll s (Join.shapeAll joins))
  | [], _ => .ok .nil
  | ⟨kind, entity, condition⟩ :: rest, tame => by
      have parts := Bool.and_eq_true_iff.1 tame
      have first := Bool.and_eq_true_iff.1 parts.1
      have opening : Opening (kind.keyword ++ " ") := by cases kind <;> decide
      have source := (Entity.closed_render first.1).alike.after opening
      exact (Predicate.both_render format condition first.2).bind fun _ _ condition =>
        (Join.both_renderAll format rest parts.2).bind fun _ _ rest =>
          .ok (.cons (source.between condition (by decide)) rest)

theorem Query.both_render (format : '\'' ∉ s.dateFormat.toList) : ∀ q : Query, q.isTame = true →
    Both Alike (q.render s) (q.shape.render s)
  | ⟨entity, fields, fixed, distinct, filter, joins, order, group, skip, take⟩, tame => by
      simp only [Query.isTame, Bool.and_eq_true] at tame
      obtain ⟨⟨⟨⟨⟨entity, columns⟩, filter⟩, joins⟩, order⟩, group⟩ := tame
      exact both_selectText s entity
        ⟨Field.outputNames_shape fields, Field.both_renderAll format _ columns⟩
        ⟨Join.both_renderAll format _ joins, Predicate.both_renderOption format _ filter,
          Expr.both_renderAll format _ group, OrderTerm.both_renderAll format _ order⟩

end

theorem Assignments.both_render (format : '\'' ∉ s.dateFormat.toList) {values : Assignments}
    (tame : values.all (fun v => v.2.isTame) = true) :
    Both (List.Forall₂ fun x y => Alike x.2 y.2) (values.render s) (values.shape.render s) := by
  induction values with
  | nil => exact .ok .nil
  | cons first rest ih =>
    obtain ⟨column, e⟩ := first
    rw [List.all_cons, Bool.and_eq_true] at tame
    have one : Both (fun x y : String × String => Alike x.2 y.2) ((e.render s).map (column, ·))
        ((e.shape.render s).map (Name.shape column, ·)) :=
      (Expr.both_render format e tame.1).map fun _ _ value => value
    rw [Assignments.shape, List.map_cons, Assignments.render, Assignments.render, List.mapM_cons,
      List.mapM_cons]
    exact one.bind fun _ _ first => (ih tame.2).bind fun _ _ rest => .ok (.cons first rest)

theorem Assignments.isEmpty_shape (values : Assignments) :
    values.shape.isEmpty = values.isEmpty := by
  rw [Assignments.shape, List.isEmpty_map]

section

variable {xs ys : List (String × String)} (h : List.Forall₂ (fun x y => Alike x.2 y.2) xs ys)

include h

theorem alike_assignedColumns :
    Alike (commaList (xs.map fun v => Name.quote v.1)) (commaList (ys.map fun v => Name.quote v.1)) :=
  alike_commaList (List.rel_map (fun x y _ => Alike.quote x.1 y.1) h)

theorem alike_assignedValues : Alike (commaList (xs.map Prod.snd)) (commaList (ys.map Prod.snd)) := by
  refine alike_commaList (List.rel_map ?_ h)
  intro x y value
  exact value

theorem alike_assignments :
    Alike (commaList (xs.map assignmentText)) (commaList (ys.map assignmentText)) := by
  refine alike_commaList (List.rel_map ?_ h)
  intro x y value
  exact (Alike.quote x.1 y.1).between value (by decide)

end

theorem Statement.both_render_shape (format : '\'' ∉ s.dateFormat.toList) (statement : Statement)
    (tame : statement.isTame = true) :
    Both Alike (statement.render s) (statement.shape.render s) := by
  cases statement with
  | select query => exact Query.both_render format query tame
  | insert entity values =>
    have parts := Bool.and_eq_true_iff.1 tame
    have name := (Name.closed_quoteWords parts.1).alike.after (by decide : Opening "INSERT INTO ")
    -- Without assignments both are refused.
    rw [Statement.shape, Statement.render, Statement.render, Assignments.isEmpty_shape]
    split
    next => exact .error _
    next =>
      refine (Assignments.both_render format parts.2).bind fun _ _ rendered => .ok ?_
      exact ((name.between (alike_assignedColumns rendered) (by decide)).between
        (alike_assignedValues rendered) (by decide)).before (by decide)
  | update entity values filter =>
    have parts := Bool.and_eq_true_iff.1 tame
    have first := Bool.and_eq_true_iff.1 parts.1
    have name := (Name.closed_quoteWords first.1).alike.after (by decide : Opening "UPDATE ")
    rw [Statement.shape, Statement.render, Statement.render, Assignments.isEmpty_shape]
    split
    next => exact .error _
    next =>
      refine (Assignments.both_render format first.2).bind fun _ _ rendered =>
        (Predicate.both_renderOption format filter parts.2).bind fun _ _ filter => .ok ?_
      exact (name.between (alike_assignments rendered) (by decide)).followed (.whereText filter)
  | delete entity filter =>
    have parts := Bool.and_eq_true_iff.1 tame
    have name := (Name.closed_quoteWords parts.1).alike.after (by decide : Opening "DELETE FROM ")
    exact (Predicate.both_renderOption format filter parts.2).bind fun _ _ filter =>
      .ok (name.followed (.whereText filter))

/-- Texts and names cannot change the structure of a statement: both statements are refused for the
same reason, or both texts are complete and differ at most between quotes. -/
theorem Statement.both_render_of_shape_eq {s : Settings} (format : '\'' ∉ s.dateFormat.toList)
    {first second : Statement} (same : first.shape = second.shape) (left : first.isTame = true)
    (right : second.isTame = true) : Both Alike (first.render s) (second.render s) := by
  -- Both statements are compared with the shape they have in common.
  have shaped := (Statement.both_render_shape format second right).symm fun _ _ h => h.symm
  rw [← same] at shaped
  exact (Statement.both_render_shape format first left).trans (fun _ _ _ h k => h.trans k) shaped

theorem Statement.both_render_hostile :
    Both Alike
      ((Statement.delete "app.users" (some (.compare (.named "name") .eq (.value (.text "ann"))))).render
        (.default 3600))
      ((Statement.delete "app.users" (some (.compare (.named "na\"me") .eq
        (.value (.text "x\\' OR 1=1 --"))))).render (.default 3600)) :=
  Statement.both_render_of_shape_eq (by decide +kernel) (by rfl) (by decide +kernel)
    (by decide +kernel)

end OracleSql
