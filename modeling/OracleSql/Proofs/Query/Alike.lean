import Mathlib.Data.List.Forall2
import OracleSql.Proofs.Literal.Alike
import OracleSql.Proofs.Query.Shape
import OracleSql.Query.Render

set_option autoImplicit false

namespace OracleSql

open Sql

inductive Checked.Both {α β : Type} (R : α → β → Prop) : Checked α → Checked β → Prop where
  | ok {a : α} {b : β} (related : R a b) : Checked.Both R (.ok a) (.ok b)
  | error (e : QueryError) : Checked.Both R (.error e) (.error e)

namespace Checked.Both

variable {α β γ δ : Type} {R : α → β → Prop} {S : γ → δ → Prop}

theorem map {x : Checked α} {y : Checked β} (h : Both R x y) {f : α → γ} {g : β → δ}
    (k : ∀ a b, R a b → S (f a) (g b)) : Both S (x.map f) (y.map g) := by
  cases h with
  | ok related => exact .ok (k _ _ related)
  | error e => exact .error e

theorem bind {x : Checked α} {y : Checked β} (h : Both R x y) {f : α → Checked γ}
    {g : β → Checked δ} (k : ∀ a b, R a b → Both S (f a) (g b)) : Both S (x >>= f) (y >>= g) := by
  cases h with
  | ok related => exact k _ _ related
  | error e => exact .error e

theorem symm {R : α → α → Prop} (h : ∀ a b, R a b → R b a) {x y : Checked α} (k : Both R x y) :
    Both R y x := by
  cases k with
  | ok related => exact .ok (h _ _ related)
  | error e => exact .error e

theorem trans {R : α → α → Prop} (h : ∀ a b c, R a b → R b c → R a c) {x y z : Checked α}
    (k : Both R x y) (l : Both R y z) : Both R x z := by
  cases k with
  | ok related =>
    cases l with
    | ok related' => exact .ok (h _ _ _ related related')
  | error e => exact l

end Checked.Both

open Checked (Both)

@[simp] theorem Name.shape_eq_star_iff {name : String} : Name.shape name = "*" ↔ name = "*" := by
  by_cases star : name = "*"
  next => simp [Name.shape, star]
  next =>
    have other : ("" : String) ≠ "*" := by decide
    simp [Name.shape, star, other]

theorem Name.alike_starred (name : String) :
    Alike (if name = "*" then "*" else Name.quote name)
      (if Name.shape name = "*" then "*" else Name.quote (Name.shape name)) := by
  by_cases star : name = "*"
  next =>
    rw [if_pos star, if_pos (Name.shape_eq_star_iff.2 star)]
    exact Closed.alike (by decide)
  next =>
    rw [if_neg star, if_neg (mt Name.shape_eq_star_iff.1 star)]
    exact .quote _ _

theorem ColumnRef.alike_render (c : ColumnRef) : Alike c.render c.shape.render := by
  obtain ⟨table, column⟩ := c
  cases table with
  | none => exact Name.alike_starred column
  | some table =>
    exact (Alike.quote table (Name.shape table)).between (Name.alike_starred column) (by decide)

theorem ColumnRef.closed_render (c : ColumnRef) : Closed c.render :=
  alike_self_iff.1 (c.alike_render.trans c.alike_render.symm)

theorem Name.isDotted_append {a b : String} (ha : Name.isDotted a = true)
    (hb : ∀ c ∈ b.toList, isWordChar c = true ∨ IsPlain c) :
    ∀ c ∈ (a ++ b).toList, isWordChar c = true ∨ IsPlain c := by
  intro c member
  rw [String.toList_append, List.mem_append] at member
  rcases member with left | right
  next =>
    have dotted := List.all_eq_true.1 ha c left
    rw [Bool.or_eq_true, beq_iff_eq] at dotted
    rcases dotted with word | rfl
    next => exact .inl word
    next => exact .inr (by decide)
  next => exact hb c right

theorem Name.closed_quoteWords_append {a b : String} (ha : Name.isDotted a = true)
    (hb : ∀ c ∈ b.toList, isWordChar c = true ∨ IsPlain c) : Closed (Name.quoteWords (a ++ b)) := by
  have chars := Name.isDotted_append ha hb
  -- A name with quotes of its own is left alone, but this one has none.
  have unquoted : (a ++ b).toList.contains '"' = false := by
    rw [← Bool.not_eq_true, List.contains_iff_mem]
    intro member
    rcases chars '"' member with word | plain
    next => simp [isWordChar_mark] at word
    next => exact absurd plain (by decide)
  unfold Closed Name.quoteWords
  rw [unquoted, if_neg (by simp), String.toList_ofList]
  exact (scan_quoteRuns chars).1

theorem Name.closed_quoteWords {name : String} (h : Name.isDotted name = true) :
    Closed (Name.quoteWords name) := by
  simpa using Name.closed_quoteWords_append (b := "") h (by simp)

theorem Entity.closed_render {e : Entity} (h : e.isDotted = true) : Closed e.render := by
  have name := Name.closed_quoteWords (Bool.and_eq_true_iff.1 h).1
  unfold Entity.render
  split
  next own _ => exact alike_self_iff.1 (name.alike.between (.quote own own) (by decide))
  next => exact name

theorem Entity.isDotted_source {e : Entity} (h : e.isDotted = true) :
    Name.isDotted e.source = true := by
  obtain ⟨name, alias?⟩ := e
  rw [Entity.isDotted, Bool.and_eq_true] at h
  cases alias? with
  | none => exact h.1
  | some own => exact h.2

mutual

theorem Value.isInline_shape : ∀ v : Value, v.shape.isInline = v.isInline
  | .null | .bool _ | .int _ | .float _ | .text _ | .instant _ | .blob _ => rfl
  | .array items => Value.allInline_shape items
  | .object entries => Value.allInlineEntries_shape entries

theorem Value.allInline_shape : ∀ items : List Value,
    Value.allInline (Value.shapeAll items) = Value.allInline items
  | [] => rfl
  | item :: rest => by
      rw [Value.shapeAll, Value.allInline, Value.allInline, Value.isInline_shape item,
        Value.allInline_shape rest]

theorem Value.allInlineEntries_shape : ∀ entries : List (String × Value),
    Value.allInlineEntries (Value.shapeEntries entries) = Value.allInlineEntries entries
  | [] => rfl
  | (key, value) :: rest => by
      rw [Value.shapeEntries, Value.allInlineEntries, Value.allInlineEntries,
        Value.isInline_shape value, Value.allInlineEntries_shape rest]

end

theorem Settings.printedAlias_shape (s : Settings) (e : Expr) (alias? : Option String) :
    s.printedAlias e.shape (alias?.map Name.shape) = (s.printedAlias e alias?).map Name.shape := by
  cases alias? with
  | some name => rfl
  | none =>
    cases e with
    | column c =>
      obtain ⟨table, column⟩ := c
      simp only [Option.map_none, Expr.shape, printedAlias, ColumnRef.shape, Option.isSome_map,
        ne_eq, Name.shape_eq_star_iff]
      split
      next => rfl
      next => rfl
    | value v => rfl
    | call f => rfl
    | select q => rfl

theorem Settings.alike_withAlias (s : Settings) {a b : String} (h : Alike a b)
    (alias? : Option String) :
    Alike (s.withAlias a alias?) (s.withAlias b (alias?.map Name.shape)) := by
  cases alias? with
  | none => exact h
  | some name =>
    have separates : Separator (if s.aliasKeyword then " AS " else " ") := by
      split
      next => decide
      next => decide
    exact h.between (.quote name (Name.shape name)) separates

theorem Field.outputName_shape (e : Expr) (alias? : Option String) :
    Field.outputName ⟨e.shape, alias?.map Name.shape⟩ =
      (Field.outputName ⟨e, alias?⟩).map Name.shape := by
  cases alias? with
  | some name => rfl
  | none => cases e <;> rfl

theorem Field.outputNames_shape (fields : List Field) :
    (Field.shapeAll fields).map Field.outputName =
      (fields.map Field.outputName).map (Option.map Name.shape) := by
  induction fields with
  | nil => rfl
  | cons f rest ih =>
    obtain ⟨e, alias?⟩ := f
    simp [Field.shapeAll, Field.shape, Field.outputName_shape, ih]

end OracleSql
