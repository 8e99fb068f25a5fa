import OracleSql.Proofs.Query.Compared

set_option autoImplicit false

namespace OracleSql

open Sql Checked

namespace Literal

theorem ne_null_of_consists {s : String} (h : Consists isNumeral s) : s ≠ "NULL" := by
  rintro rfl
  exact absurd (h 'N' (by decide)) (by decide)

theorem ne_null_of_mark {s : String} (h : '\'' ∈ s.toList) : s ≠ "NULL" := by
  rintro rfl
  exact absurd h (by decide)

theorem mark_mem_escapeText (s : String) : '\'' ∈ (escapeText s).toList := by
  obtain ⟨content, read⟩ := exists_scan_escapeText s
  rw [← (scan_eq_some_iff.1 read).text_eq]
  simp [Token.text, Quoted.mark]

theorem mark_mem_intercalate (offset : Int) {items : List Value} (h : items.any Value.isObject = true) :
    '\'' ∈ (", ".intercalate (ofValues offset false items)).toList := by
  obtain ⟨item, inside, object⟩ := List.any_eq_true.1 h
  cases item with
  | object entries =>
    have listed : ofValue offset false (.object entries) ∈ ofValues offset false items := by
      rw [ofValues_eq_map]
      exact List.mem_map_of_mem inside
    exact (Part.intercalate ", " listed).subset (mark_mem_escapeText _)
  | _ => cases object

theorem escape_eq_null_iff {offset : Int} {v : Value} :
    escape offset v = "NULL" ↔ v = .null ∨ ∃ x : Double, v = .float x ∧ x.isFinite = false := by
  constructor
  next =>
    intro written
    cases v with
    | null => exact .inl rfl
    | bool b =>
      have other : (if b then "1" else "0") ≠ "NULL" := by cases b <;> decide
      exact absurd written other
    | int n => exact absurd written (ne_null_of_consists (consists_toString_int n))
    | float x =>
      cases x with
      | finite negative code =>
        exact absurd written (ne_null_of_consists (Double.consists_finiteText _ _ _))
      | nan | infinite => exact .inr ⟨_, rfl, rfl⟩
    | text s => exact absurd written (ne_null_of_mark (mark_mem_escapeText s))
    | instant t =>
      refine absurd written (ne_null_of_mark ?_)
      simp [escape, ofValue, ofInstant_eq]
    | blob bytes =>
      refine absurd written (ne_null_of_mark ?_)
      simp [escape, ofValue, blob_eq]
    | array items =>
      refine absurd written (ne_null_of_mark ?_)
      unfold escape ofValue
      split
      next object => exact mark_mem_intercalate offset object
      next => exact mark_mem_escapeText _
    | object entries => exact absurd written (ne_null_of_mark (mark_mem_escapeText _))
  next =>
    rintro (rfl | ⟨x, rfl, infinite⟩)
    next => rfl
    next => exact if_neg (by simp [infinite])

end Literal

/-- A literal that is written as `NULL`. -/
def Expr.IsNull (e : Expr) : Prop :=
  ∃ v, e = .value v ∧ ∀ offset, Literal.escape offset v = "NULL"

theorem Expr.isNull_iff {e : Expr} :
    e.IsNull ↔ e = .value .null ∨ ∃ x : Double, e = .value (.float x) ∧ x.isFinite = false := by
  constructor
  next =>
    rintro ⟨v, rfl, written⟩
    rcases Literal.escape_eq_null_iff.1 (written 0) with rfl | ⟨x, rfl, infinite⟩
    next => exact .inl rfl
    next => exact .inr ⟨x, rfl, infinite⟩
  next =>
    rintro (rfl | ⟨x, rfl, infinite⟩)
    next => exact ⟨_, rfl, fun _ => rfl⟩
    next =>
      exact ⟨_, rfl, fun _ => Literal.escape_eq_null_iff.2 (.inr ⟨x, rfl, infinite⟩)⟩

theorem Expr.IsNull.render {s : Settings} {e : Expr} (h : e.IsNull) : e.render s = .ok "NULL" := by
  obtain ⟨v, rfl, written⟩ := h
  exact congrArg Except.ok (written s.offset)

def Comparison.nullTest? : Comparison → Option String
  | .eq => some " IS NULL"
  | .ne => some " IS NOT NULL"
  | _ => none

namespace Compared

def Opposite (c : Compared) (e : Expr) : Prop :=
  c.left.IsNull ∧ e = c.right ∨ c.right.IsNull ∧ e = c.left

variable {s : Settings} {c : Compared} {text test : String}

theorem render_null (null : c.right = .value .null) (tests : c.op.nullTest? = some test)
    (written : c.render s = .ok text) :
    ∃ left, c.left.render s = .ok left ∧ text = "(" ++ left ++ test ++ ")" := by
  obtain ⟨l, op, r⟩ := c
  obtain ⟨left, first, rest⟩ := Checked.bind_eq_ok_iff.1 written
  refine ⟨left, first, ?_⟩
  cases null
  cases op <;> cases tests <;> cases rest
  all_goals simp [String.append_assoc]

theorem render_plain (other : c.right ≠ .value .null) (written : c.render s = .ok text) :
    ∃ left right, c.left.render s = .ok left ∧ c.right.render s = .ok right ∧
      text = "(" ++ left ++ c.op.symbol ++ right ++ ")" := by
  obtain ⟨l, op, r⟩ := c
  obtain ⟨left, first, rest⟩ := Checked.bind_eq_ok_iff.1 written
  dsimp only at other rest
  unfold comparisonText at rest
  split at rest
  next => exact (other rfl).elim
  next => exact (other rfl).elim
  next =>
    obtain ⟨right, second, rfl⟩ := Checked.map_eq_ok_iff.1 rest
    exact ⟨left, right, first, second, rfl⟩

-- A null test is longer than a comparison.
theorem ne_test (tests : c.op.nullTest? = some test) {left right other : String}
    (sides : left = "NULL" ∧ right = other ∨ left = other ∧ right = "NULL") :
    "(" ++ left ++ c.op.symbol ++ right ++ ")" ≠ "(" ++ other ++ test ++ ")" := by
  have longer : c.op.symbol.length + 4 < test.length := by
    cases same : c.op <;> rw [same] at tests <;> cases tests <;> decide
  intro same
  have lengths := congrArg String.length same
  simp only [String.length_append] at lengths
  rcases sides with ⟨rfl, rfl⟩ | ⟨rfl, rfl⟩
  all_goals
    have four : "NULL".length = 4 := by decide
    omega

end Compared

/-- An equality with a null literal is a null test of the other operand exactly if the right operand
is the null value. A null literal on the left and a float that is not finite stand beside the `=` or
`<>` instead. -/
theorem Predicate.nullTest_iff {s : Settings} {p : Predicate} {sql : String}
    (written : p.render s = .ok sql) {c : Compared} (inside : c ∈ p.comparisons) {test : String}
    (tests : c.op.nullTest? = some test) {e : Expr} (opposite : c.Opposite e) :
    ∃ other text, e.render s = .ok other ∧ c.render s = .ok text ∧ Part text sql ∧
      (text = "(" ++ other ++ test ++ ")" ↔ c.right = .value .null) ∧
      (c.right ≠ .value .null →
        c.left.IsNull ∧ text = "(" ++ "NULL" ++ c.op.symbol ++ other ++ ")" ∨
          (∃ x : Double, c.right = .value (.float x) ∧ x.isFinite = false) ∧
            text = "(" ++ other ++ c.op.symbol ++ "NULL" ++ ")") := by
  obtain ⟨text, rendered, _, whole, part⟩ := Predicate.contains_render s p sql written c inside
  rw [List.mem_singleton.1 whole] at part
  by_cases null : c.right = .value .null
  next =>
    obtain ⟨left, first, form⟩ := Compared.render_null null tests rendered
    -- With a null on both sides, the operand opposite to the left one has the same text.
    have same : e.render s = .ok left := by
      rcases opposite with ⟨isNull, rfl⟩ | ⟨-, rfl⟩
      next =>
        rw [null, ← first, isNull.render]
        rfl
      next => exact first
    exact ⟨left, text, same, rendered, part, iff_of_true form null, absurd null⟩
  next =>
    obtain ⟨left, right, first, second, rfl⟩ := Compared.render_plain null rendered
    rcases opposite with ⟨isNull, rfl⟩ | ⟨isNull, rfl⟩
    next =>
      cases isNull.render.symm.trans first
      exact ⟨right, _, second, rendered, part,
        iff_of_false (Compared.ne_test tests (.inl ⟨rfl, rfl⟩)) null,
        fun _ => .inl ⟨isNull, rfl⟩⟩
    next =>
      cases isNull.render.symm.trans second
      exact ⟨left, _, first, rendered, part,
        iff_of_false (Compared.ne_test tests (.inr ⟨rfl, rfl⟩)) null,
        fun _ => .inr ⟨(Expr.isNull_iff.1 isNull).resolve_left null, rfl⟩⟩

theorem Predicate.nullTest_nan :
    let c : Compared := ⟨.column ⟨none, "a"⟩, .eq, .value (.float .nan)⟩
    ∃ other text, c.left.render (.default 3600) = .ok other ∧ c.render (.default 3600) = .ok text ∧
      Part text "NOT (\"a\"=NULL)" ∧
      (text = "(" ++ other ++ " IS NULL" ++ ")" ↔ c.right = .value .null) ∧
      (c.right ≠ .value .null →
        c.left.IsNull ∧ text = "(" ++ "NULL" ++ "=" ++ other ++ ")" ∨
          (∃ x : Double, c.right = .value (.float x) ∧ x.isFinite = false) ∧
            text = "(" ++ other ++ "=" ++ "NULL" ++ ")") := by
  intro c
  have written : (Predicate.not (.compare c.left c.op c.right)).render (.default 3600) =
      .ok "NOT (\"a\"=NULL)" := by rfl
  exact Predicate.nullTest_iff written (List.mem_cons_self (a := c)) rfl
    (.inr ⟨⟨_, rfl, fun _ => rfl⟩, rfl⟩)

theorem Predicate.null_first_compared :
    ¬ ∀ (s : Settings) (p : Predicate) (sql : String), p.render s = .ok sql →
        ∀ c ∈ p.comparisons, ∀ test, c.op.nullTest? = some test → ∀ e, c.Opposite e →
          ∃ other, e.render s = .ok other ∧ c.render s = .ok ("(" ++ other ++ test ++ ")") := by
  intro tested
  let c : Compared := ⟨.value .null, .eq, .column ⟨none, "a"⟩⟩
  obtain ⟨other, column, same⟩ := tested (.default 3600) (.compare c.left c.op c.right) _ rfl c
    List.mem_cons_self " IS NULL" rfl _ (.inl ⟨⟨_, rfl, fun _ => rfl⟩, rfl⟩)
  have name : c.right.render (.default 3600) = .ok "\"a\"" := by rfl
  have compared : c.render (.default 3600) = .ok "(NULL=\"a\")" := by rfl
  cases column.symm.trans name
  rw [compared] at same
  exact absurd (Except.ok.inj same) (by decide)

end OracleSql
