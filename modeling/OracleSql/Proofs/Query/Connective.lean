import OracleSql.Proofs.Query.Grouping

set_option autoImplicit false

namespace OracleSql

open Sql Checked

variable {s : Settings}

theorem Predicate.all_oneOf (negated : Bool) {e : Expr} {items : List Expr}
    (h : All Balanced (e.render s))
    (all : Each Balanced (Expr.renderAll s items)) :
    All Operand ((Predicate.oneOf negated e items).render s) := by
  have listed {a : String} (left : Balanced a) (xs : List String) (list : ∀ x ∈ xs, Balanced x) :
      Operand (membershipText negated a ("(" ++ commaList xs ++ ")")) :=
    operand_membershipText negated left (balanced_commaList list).isGroup.balanced
  have empty : Operand (emptyMembership negated) := by cases negated <;> decide
  rw [Predicate.render]
  refine h.bind fun a left => ?_
  cases items with
  | nil => exact .ok empty
  | cons first rest =>
    cases rest with
    | cons second rest => cases first <;> exact all.map (listed left)
    | nil =>
      cases first with
      | column | value | call => exact all.map (listed left)
      | select q =>
        have nested : All (fun sql => Balanced ("(" ++ sql ++ ")")) (q.render s) := by
          intro sql written
          refine all ["(" ++ sql ++ ")"] ?_ _ (List.mem_singleton_self _)
          rw [Expr.renderAll, Expr.renderAll, Expr.render, written]
          rfl
        exact nested.map fun _ sql => operand_membershipText negated left sql

mutual

theorem Expr.all_render (format : '\'' ∉ s.dateFormat.toList) : ∀ e : Expr, e.isTame = true →
    All Operand (e.render s)
  | .column c, _ => .ok c.operand_render
  | .value v, _ => .ok (Literal.listable_escape s.offset v).operand
  | .call f, tame => Call.all_render format f tame
  | .select q, tame => (Query.all_render format q tame).map fun _ sql => sql.enclosed (by decide)

theorem Call.all_render (format : '\'' ∉ s.dateFormat.toList) : ∀ f : Call, f.isTame = true →
    All Operand (f.render s)
  | .unary f e, tame => (Expr.all_render format e tame).map fun _ e => f.operand_apply e.balanced
  | .binary f a b, tame => by
      have parts := Bool.and_eq_true_iff.1 tame
      exact (Expr.all_render format a parts.1).bind fun _ a =>
        (Expr.all_render format b parts.2).bind fun _ b => .ok (f.operand_apply a.balanced b.balanced)
  | .matching f source pattern, tame => by
      have parts := Bool.and_eq_true_iff.1 tame
      exact (Expr.all_render format source parts.1).bind fun _ source =>
        (Expr.all_renderPattern format f pattern parts.2).bind fun _ pattern =>
          .ok (f.operand_apply source.balanced pattern)
  | .extract part e, tame => (Expr.all_render format e tame).map fun _ e =>
      operand_extractText format part _ e.balanced
  | .now clock, _ => .ok (by cases clock <;> decide +kernel)
  | .substring source start length?, tame =>
      (Expr.all_render format source tame).bind fun _ source =>
        all_substringText start length? source.balanced
  | .concat items, tame => by
      unfold Call.render
      split
      next => exact .error _
      next => exact (Expr.all_renderAll format items tame).map fun _ => operand_concatText
  | .round e digits, tame => by
      have parts := Bool.and_eq_true_iff.1 tame
      exact (Expr.all_renderOption format digits parts.2).bind fun _ digits =>
        (Expr.all_render format e parts.1).bind fun _ e => .ok (operand_roundText e.balanced digits)
  | .toDecimal e precision scale, tame => (Expr.all_render format e tame).map fun _ e =>
      operand_decimalText precision scale e.balanced
  | .jsonGet path, tame => all_jsonGetText (by simpa [Call.isTame] using tame)
  | .jsonObject members, tame =>
      (Field.all_renderMembers format members tame).map fun _ => operand_objectText
  | .jsonArray e, tame => Expr.all_renderArray format e tame
  | .jsonGroupArray e, tame => by
      cases e with
      | call f => cases f with
        | jsonObject members =>
          exact (Field.all_renderMembers format members tame).map fun _ =>
            operand_arrayOfObjectsText
        | _ => exact .error _
      | _ => exact .error _
  | .cond condition yes no, tame => by
      have parts := Bool.and_eq_true_iff.1 tame
      have first := Bool.and_eq_true_iff.1 parts.1
      exact (Predicate.all_render format condition first.1).bind fun _ condition =>
        (Expr.all_render format yes first.2).bind fun _ yes =>
          (Expr.all_render format no parts.2).bind fun _ no =>
            .ok (operand_condText condition.balanced yes.balanced no.balanced)
  | .uuid, _ => .ok operand_uuidText
  | .rowIndex order, tame =>
      (OrderTerm.all_renderAll format order tame).map fun _ => operand_rowNumberText

theorem Expr.all_renderPattern (format : '\'' ∉ s.dateFormat.toList) (f : Matcher) :
    ∀ e : Expr, e.isPatternTame = true → All Balanced (e.renderPattern s f)
  | .column c, _ => .ok (f.balanced_computed c.operand_render.balanced)
  | .value _, tame => .ok (f.balanced_literal s.offset tame)
  | .call g, tame => (Call.all_render format g tame).map fun _ sql =>
      f.balanced_computed sql.balanced
  | .select q, tame => (Query.all_render format q tame).map fun _ sql =>
      f.balanced_computed sql.isGroup.balanced

theorem Expr.all_renderArray (format : '\'' ∉ s.dateFormat.toList) : ∀ e : Expr, e.isTame = true →
    All Operand (e.renderArray s)
  | .column c, _ => .ok c.operand_render
  | .value v, _ => .ok (operand_arrayLiteral s.offset v)
  | .call _, _ => .error _
  | .select ⟨entity, fields, fixed, distinct, filter, joins, order, group, skip, take⟩, tame => by
      simp only [Expr.isTame, Query.isTame, Bool.and_eq_true] at tame
      obtain ⟨⟨⟨⟨⟨entity, fields⟩, filter⟩, joins⟩, order⟩, group⟩ := tame
      have members : Each Balanced ((Field.renderMembers s _).map fun members =>
          [arrayOfObjectsText members]) :=
        (Field.all_renderMembers format _ fields).map fun _ members => by
          simpa using (operand_arrayOfObjectsText members).balanced
      exact (all_selectText s entity members
        ⟨Join.all_renderAll format _ joins, Predicate.all_renderOption format _ filter,
          Expr.all_renderAll format _ group, OrderTerm.all_renderAll format _ order⟩).map
        fun _ sql => sql.enclosed (by decide)

theorem Expr.all_renderOption (format : '\'' ∉ s.dateFormat.toList) :
    ∀ e? : Option Expr, Expr.optionTame e? = true →
      All (fun x => ∀ y ∈ x, Balanced y) (Expr.renderOption s e?)
  | none, _ => .ok (by simp)
  | some e, tame => (Expr.all_render format e tame).map fun _ e => by simpa using e.balanced

theorem Expr.all_renderAll (format : '\'' ∉ s.dateFormat.toList) :
    ∀ items : List Expr, Expr.allTame items = true →
      Each Balanced (Expr.renderAll s items)
  | [], _ => .ok (by simp)
  | e :: rest, tame => by
      have parts := Bool.and_eq_true_iff.1 tame
      exact (Expr.all_render format e parts.1).bind fun _ first =>
        (Expr.all_renderAll format rest parts.2).bind fun _ rest =>
          .ok (List.forall_mem_cons.2 ⟨first.balanced, rest⟩)

theorem Field.all_renderMembers (format : '\'' ∉ s.dateFormat.toList) :
    ∀ members : List Field, Field.allTame members = true →
      Each Balanced (Field.renderMembers s members)
  | [], _ => .ok (by simp)
  | ⟨e, alias?⟩ :: rest, tame => by
      have parts := Bool.and_eq_true_iff.1 tame
      rw [Field.renderMembers]
      have value : All Balanced (e.render s) := fun sql h =>
        (Expr.all_render format e parts.1 sql h).balanced
      exact (all_memberText _ value).bind fun _ first =>
        (Field.all_renderMembers format rest parts.2).bind fun _ rest =>
          .ok (List.forall_mem_cons.2 ⟨first, rest⟩)

theorem Field.all_renderAll (format : '\'' ∉ s.dateFormat.toList) :
    ∀ fields : List Field, Field.allTame fields = true →
      Each Balanced (Field.renderAll s fields)
  | [], _ => .ok (by simp)
  | ⟨e, alias?⟩ :: rest, tame => by
      have parts := Bool.and_eq_true_iff.1 tame
      rw [Field.renderAll, Field.render]
      exact ((Expr.all_render format e parts.1).map fun _ sql =>
        s.balanced_withAlias sql.balanced _).bind fun _ first =>
          (Field.all_renderAll format rest parts.2).bind fun _ rest =>
            .ok (List.forall_mem_cons.2 ⟨first, rest⟩)

theorem OrderTerm.all_renderAll (format : '\'' ∉ s.dateFormat.toList) :
    ∀ order : List OrderTerm, OrderTerm.allTame order = true →
      Each Balanced (OrderTerm.renderAll s order)
  | [], _ => .ok (by simp)
  | ⟨e, direction⟩ :: rest, tame => by
      have parts := Bool.and_eq_true_iff.1 tame
      have joint : Joint direction.keyword := by cases direction <;> decide
      exact (Expr.all_render format e parts.1).bind fun _ first =>
        (OrderTerm.all_renderAll format rest parts.2).bind fun _ rest =>
          .ok (List.forall_mem_cons.2 ⟨(first.balanced.before (by decide)).before joint, rest⟩)

theorem Predicate.all_render (format : '\'' ∉ s.dateFormat.toList) :
    ∀ p : Predicate, p.isTame = true → All Operand (p.render s)
  | .and items, tame => (Predicate.all_renderAll format items tame).bind fun _ items sql h =>
      (all_joinConditions .and items sql h).1
  | .or items, tame => (Predicate.all_renderAll format items tame).bind fun _ items sql h =>
      (all_joinConditions .or items sql h).1
  | .not item, tame => (Predicate.all_render format item tame).map fun _ => operand_negation
  | .nor items, tame => (Predicate.all_renderAll format items tame).bind fun _ items =>
      (all_joinConditions .or items).bind fun _ sql => .ok (operand_negation sql.1)
  | .compare left op right, tame => by
      have parts := Bool.and_eq_true_iff.1 tame
      exact (Expr.all_render format left parts.1).bind fun _ left =>
        all_comparisonText op right left.balanced fun sql h =>
          (Expr.all_render format right parts.2 sql h).balanced
  | .oneOf negated e items, tame => by
      have parts := Bool.and_eq_true_iff.1 tame
      exact Predicate.all_oneOf negated (fun sql h => (Expr.all_render format e parts.1 sql h).balanced)
        (Expr.all_renderAll format items parts.2)
  | .between e low high, tame => by
      have parts := Bool.and_eq_true_iff.1 tame
      have first := Bool.and_eq_true_iff.1 parts.1
      exact (Expr.all_render format e first.1).bind fun _ e =>
        (Expr.all_render format low first.2).bind fun _ low =>
          (Expr.all_render format high parts.2).bind fun _ high =>
            .ok (operand_betweenText e.balanced low.balanced high.balanced)
  | .holds e, tame => Expr.all_render format e tame

theorem Predicate.all_renderAll (format : '\'' ∉ s.dateFormat.toList) :
    ∀ items : List Predicate, Predicate.allTame items = true →
      Each Operand (Predicate.renderAll s items)
  | [], _ => .ok (by simp)
  | p :: rest, tame => by
      have parts := Bool.and_eq_true_iff.1 tame
      exact (Predicate.all_render format p parts.1).bind fun _ first =>
        (Predicate.all_renderAll format rest parts.2).bind fun _ rest =>
          .ok (List.forall_mem_cons.2 ⟨first, rest⟩)

theorem Predicate.all_renderOption (format : '\'' ∉ s.dateFormat.toList) :
    ∀ p? : Option Predicate, Predicate.optionTame p? = true →
      All (fun x => ∀ y ∈ x, Balanced y) (Predicate.renderOption s p?)
  | none, _ => .ok (by simp)
  | some p, tame => (Predicate.all_render format p tame).map fun _ p => by simpa using p.balanced

theorem Join.all_renderAll (format : '\'' ∉ s.dateFormat.toList) :
    ∀ joins : List Join, Join.allTame joins = true →
      Each Balanced (Join.renderAll s joins)
  | [], _ => .ok (by simp)
  | ⟨kind, entity, condition⟩ :: rest, tame => by
      have parts := Bool.and_eq_true_iff.1 tame
      have first := Bool.and_eq_true_iff.1 parts.1
      have joint : Joint (kind.keyword ++ " ") := by cases kind <;> decide
      have source := (Entity.balanced_render first.1).after joint
      exact (Predicate.all_render format condition first.2).bind fun _ condition =>
        (Join.all_renderAll format rest parts.2).bind fun _ rest =>
          .ok (List.forall_mem_cons.2 ⟨source.between condition.balanced (by decide), rest⟩)

theorem Query.all_render (format : '\'' ∉ s.dateFormat.toList) : ∀ q : Query, q.isTame = true →
    All Balanced (q.render s)
  | ⟨entity, fields, fixed, distinct, filter, joins, order, group, skip, take⟩, tame => by
      simp only [Query.isTame, Bool.and_eq_true] at tame
      obtain ⟨⟨⟨⟨⟨entity, columns⟩, filter⟩, joins⟩, order⟩, group⟩ := tame
      exact all_selectText s entity (Field.all_renderAll format _ columns)
        ⟨Join.all_renderAll format _ joins, Predicate.all_renderOption format _ filter,
          Expr.all_renderAll format _ group, OrderTerm.all_renderAll format _ order⟩

end

def Predicate.Connected (s : Settings) (sql : String) : Predicate → Prop
  | .and items => ∃ texts, Predicate.renderAll s items = .ok texts ∧ Connects .and texts sql
  | .or items => ∃ texts, Predicate.renderAll s items = .ok texts ∧ Connects .or texts sql
  | .not item => ∃ text, item.render s = .ok text ∧ Negates text sql
  | .nor items => ∃ texts text, Predicate.renderAll s items = .ok texts ∧
      Connects .or texts text ∧ Negates text sql
  | _ => True

theorem Predicate.connects_joined (format : '\'' ∉ s.dateFormat.toList) (c : Connective)
    {items : List Predicate} (tame : Predicate.allTame items = true) {sql : String}
    (written : (Predicate.renderAll s items >>= joinConditions c.separator) = .ok sql) :
    ∃ texts, Predicate.renderAll s items = .ok texts ∧ Operand sql ∧ Connects c texts sql := by
  obtain ⟨texts, rendered, joined⟩ := bind_eq_ok_iff.1 written
  have operands := Predicate.all_renderAll format items tame texts rendered
  exact ⟨texts, rendered, all_joinConditions c operands sql joined⟩

/-- The text of a condition is an operand, and it connects exactly the texts of its parts. -/
theorem Predicate.connects_render (format : '\'' ∉ s.dateFormat.toList) {p : Predicate}
    (tame : p.isTame = true) {sql : String} (written : p.render s = .ok sql) :
    Operand sql ∧ p.Connected s sql := by
  refine ⟨Predicate.all_render format p tame sql written, ?_⟩
  cases p with
  | and items =>
    obtain ⟨texts, rendered, -, connects⟩ := Predicate.connects_joined format .and tame written
    exact ⟨texts, rendered, connects⟩
  | or items =>
    obtain ⟨texts, rendered, -, connects⟩ := Predicate.connects_joined format .or tame written
    exact ⟨texts, rendered, connects⟩
  | not item =>
    rw [Predicate.render] at written
    obtain ⟨text, rendered, rfl⟩ := map_eq_ok_iff.1 written
    exact ⟨text, rendered, negates_parenthesize (Predicate.all_render format item tame text rendered)⟩
  | nor items =>
    rw [Predicate.render] at written
    obtain ⟨texts, rendered, written⟩ := bind_eq_ok_iff.1 written
    obtain ⟨text, joined, written⟩ := bind_eq_ok_iff.1 written
    cases written
    have operands := Predicate.all_renderAll format items tame texts rendered
    obtain ⟨operand, connects⟩ := all_joinConditions .or operands text joined
    exact ⟨texts, text, rendered, connects, negates_parenthesize operand⟩
  | compare | oneOf | between | holds => trivial

def brokenOff : Predicate :=
  .not (.and [.compare (.named "a) OR (b") .eq (.value (.text "') AND (1=1")),
    .between (.named "n") (.value (.int 1)) (.value (.int 2))])

theorem Predicate.connects_render_broken :
    brokenOff.render (.default 3600) =
        .ok "NOT ((\"a) OR (b\"=''') AND (1=1') AND (\"n\" BETWEEN 1 AND 2))" ∧
      Operand "NOT ((\"a) OR (b\"=''') AND (1=1') AND (\"n\" BETWEEN 1 AND 2))" ∧
      brokenOff.Connected (.default 3600)
        "NOT ((\"a) OR (b\"=''') AND (1=1') AND (\"n\" BETWEEN 1 AND 2))" := by
  have written : brokenOff.render (.default 3600) =
      .ok "NOT ((\"a) OR (b\"=''') AND (1=1') AND (\"n\" BETWEEN 1 AND 2))" := by
    decide +kernel
  exact ⟨written, Predicate.connects_render (by decide +kernel) (by decide +kernel) written⟩

end OracleSql
