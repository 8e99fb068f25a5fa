import OracleSql.Proofs.Database.Table
import OracleSql.Schema.Diff

set_option autoImplicit false

namespace OracleSql

open Sql

def characterType (length : Nat) : String :=
  "VARCHAR(" ++ toString length ++ ")"

def localTimestamp : String :=
  "TIMESTAMP(6) WITH LOCAL TIME ZONE"

inductive BaseType : String → Prop
  | number (digits places : Nat) : BaseType (Attribute.numberType digits places)
  | text {length : Nat} (some : 0 < length) : BaseType (Attribute.textType length)
  | character {length : Nat} (some : 0 < length) : BaseType (characterType length)
  | largeText : BaseType "NCLOB"
  | raw : BaseType "LONG RAW"
  | timestamp : BaseType localTimestamp

/-- The catalog reports types as the database does, whatever it says where nothing is named. -/
structure IsFaithful (report : String → ReportedType) : Prop where
  number (digits places : Nat) : ∃ size,
    report (Attribute.numberType digits places) = ⟨"NUMBER", size, some places, some digits⟩
  text (length : Nat) : ∃ scale,
    report (Attribute.textType length) = ⟨"NVARCHAR2", some length, scale, none⟩
  character (length : Nat) : ∃ scale,
    report (characterType length) = ⟨"VARCHAR2", some length, scale, none⟩
  largeText : ∃ size scale, report "NCLOB" = ⟨"NCLOB", size, scale, none⟩
  raw : ∃ scale, report "LONG RAW" = ⟨"LONG RAW", some 0, scale, none⟩
  timestamp : ∃ size scale, report localTimestamp = ⟨localTimestamp, size, scale, none⟩

namespace Attribute

theorem declaredSize_pos {a : Attribute} {size : Nat} (h : a.declaredSize = some size) :
    0 < size := by
  simp only [declaredSize, Option.filter_eq_some_iff, decide_eq_true_eq] at h
  exact h.2

theorem declaredSize_getD_pos (a : Attribute) {size : Nat} (some : 0 < size) :
    0 < a.declaredSize.getD size := by
  cases declared : a.declaredSize with
  | none => exact some
  | some _ => exact declaredSize_pos declared

theorem baseType_isBaseType (a : Attribute) : BaseType a.baseType := by
  unfold baseType
  split
  next => exact .number 1 0
  next => exact .number 3 0
  next => exact .number 5 0
  next => exact .number 19 4
  next => exact .number 19 4
  next => exact .number 19 0
  next => exact .number 19 0
  next => exact .number 19 0
  next => exact .number _ 4
  next =>
    split
    next => exact .number _ _
    next => exact .number 19 4
  next =>
    split
    next => exact .number _ _
    next => exact .number 19 4
  next =>
    split
    next =>
      split
      next => exact .number _ 0
      next => exact .number 19 0
    next => exact .number 19 0
  next => exact .timestamp
  next => exact .timestamp
  next => exact .text (a.declaredSize_getD_pos (by decide))
  next => exact .text (a.declaredSize_getD_pos (by decide))
  next => exact .text (a.declaredSize_getD_pos (by decide))
  next =>
    dsimp only
    split
    next => exact .largeText
    next => exact .text (a.declaredSize_getD_pos (by decide))
  next => exact .largeText
  next => exact .raw
  next => exact .raw
  next =>
    have same : "VARCHAR(36)" = characterType 36 := by decide +kernel
    rw [same]
    exact .character (by decide)

end Attribute

theorem isFlat_of_isDigit {c : Char} (h : c.isDigit = true) : isFlat c = true := by
  have opening : c ≠ '(' := ne_of_isDigit h (by decide)
  have closing : c ≠ ')' := ne_of_isDigit h (by decide)
  have comma : c ≠ ',' := ne_of_isDigit h (by decide)
  simp [isFlat, opening, closing, comma]

theorem level_plains_toString (n depth : Nat) : level depth (plains (toString n)) = some depth :=
  level_plains_of_flat (fun _ member => isFlat_of_isDigit (isDigit_of_mem_toString member)) depth

theorem isPlain_toString (n : Nat) : ∀ c ∈ (toString n).toList, IsPlain c :=
  fun c member => isPlain_of_isBare (bare_toString_nat n c member)

theorem isPlain_append {a b : String} (ha : ∀ c ∈ a.toList, IsPlain c)
    (hb : ∀ c ∈ b.toList, IsPlain c) : ∀ c ∈ (a ++ b).toList, IsPlain c := by
  intro c member
  rw [String.toList_append, List.mem_append] at member
  exact member.elim (ha c) (hb c)

def withArguments (name arguments : String) : String :=
  name ++ "(" ++ arguments ++ ")"

theorem numberType_eq (digits places : Nat) : Attribute.numberType digits places =
    withArguments "NUMBER" (toString digits ++ "," ++ toString places) := by
  simp [Attribute.numberType, withArguments, ← String.toList_inj]

theorem textType_eq (length : Nat) :
    Attribute.textType length = withArguments "NVARCHAR2" (toString length) := rfl

theorem characterType_eq (length : Nat) :
    characterType length = withArguments "VARCHAR" (toString length) := rfl

theorem isType_withArguments {name arguments : String} (plain : ∀ c ∈ name.toList, IsPlain c)
    (flat : ∀ c ∈ name.toList, isFlat c = true) (plainArguments : ∀ c ∈ arguments.toList, IsPlain c)
    (inner : level 1 (plains arguments) = some 1) :
    ColumnClause.IsType (withArguments name arguments) where
  plain := isPlain_append (isPlain_append (isPlain_append plain (by decide)) plainArguments)
    (by decide)
  whole := by
    have opening : level 0 (plains "(") = some 1 := by simp [plains, level, depthAfter]
    have closing : level 1 (plains ")") = some 0 := by simp [plains, level, depthAfter]
    simp only [withArguments, plains_append, level_append, level_plains_of_flat flat, opening, inner,
      closing, Option.bind_some]
  ends := by
    refine ⟨')', ?_, by decide, by decide⟩
    rw [withArguments, String.toList_append]
    exact (List.getLast?_append_of_ne_nil _ (by decide)).trans (by decide)

theorem BaseType.isType {type : String} (h : BaseType type) : ColumnClause.IsType type := by
  cases h with
  | number digits places =>
    have comma : level 1 (plains ",") = some 1 := by simp [plains, level, depthAfter]
    rw [numberType_eq]
    refine isType_withArguments (by decide) (by decide) ?_ ?_
    next => exact isPlain_append (isPlain_append (isPlain_toString _) (by decide)) (isPlain_toString _)
    next =>
      simp only [plains_append, level_append, level_plains_toString, comma, Option.bind_some]
  | text =>
    rw [textType_eq]
    exact isType_withArguments (by decide) (by decide) (isPlain_toString _)
      (level_plains_toString _ _)
  | character =>
    rw [characterType_eq]
    exact isType_withArguments (by decide) (by decide) (isPlain_toString _)
      (level_plains_toString _ _)
  | largeText => exact ⟨by decide, by decide, 'B', by decide, by decide, by decide⟩
  | raw => exact ⟨by decide, by decide, 'W', by decide, by decide, by decide⟩
  | timestamp => exact ⟨by decide, by decide, 'E', by decide, by decide, by decide⟩

def Column.reported (c : Column) : ReportedType :=
  ⟨c.dataType, c.size, c.scale, c.precision⟩

def ReportedType.column (r : ReportedType) (nullable : Bool) : Column :=
  ⟨"", r.dataType, 0, r.size, r.scale, r.precision, nullable, false⟩

theorem Column.currentType_eq (c : Column) :
    c.currentType = (c.reported.column c.nullable).currentType := rfl

def catalogName (type : String) : String :=
  if Text.startsWith "VARCHAR(" type then "VARCHAR2(" ++ String.ofList (type.toList.drop 8)
  else type

theorem Attribute.catalogType_eq (a : Attribute) :
    a.catalogType = catalogName (a.baseType ++ ColumnClause.nullability (some a.isNullable)) := by
  have same : a.nullability = ColumnClause.nullability (some a.isNullable) := by
    unfold nullability ColumnClause.nullability
    cases a.isNullable <;> rfl
  rw [← same]
  rfl

theorem catalogName_of_head {type : String} {c : Char} (other : c ≠ 'V')
    (head : type.toList.head? = some c) : catalogName type = type := by
  -- A type is renamed only if it starts like `VARCHAR`.
  have no : Text.startsWith "VARCHAR(" type = false := by
    cases h : type.toList with
    | nil => simp [h] at head
    | cons d rest =>
      have same : d = c := by simpa [h] using head
      simp [Text.startsWith, h, List.isPrefixOf, same, Ne.symm other]
  simp [catalogName, no]

theorem catalogName_characterType (length : Nat) (rest : String) :
    catalogName (characterType length ++ rest) =
      withArguments "VARCHAR2" (toString length) ++ rest := by
  simp [catalogName, characterType, Text.startsWith, withArguments, ← String.toList_inj]

theorem nullability_some (nullable : Bool) :
    ColumnClause.nullability (some nullable) = if nullable then " NULL" else " NOT NULL" := by
  cases nullable <;> rfl

theorem toString_natCast (n : Nat) : toString (n : Int) = toString n := rfl

theorem currentType_number (size : Option Int) (digits places : Nat) (nullable : Bool) :
    (ReportedType.column ⟨"NUMBER", size, some places, some digits⟩ nullable).currentType =
      Attribute.numberType digits places ++ ColumnClause.nullability (some nullable) := by
  have upper : Text.upperCase "NUMBER" = "NUMBER" := by decide +kernel
  simp only [ReportedType.column, Column.currentType, upper, nullability_some, numberType_eq,
    withArguments, toString_natCast, String.append_assoc]
  rfl

theorem currentType_sized {name : String} (upper : Text.upperCase name = name)
    (sized : name ≠ "NCLOB") (other : isLocalTimestamp name = false) (scale : Option Int) {length : Nat}
    (some : 0 < length) (nullable : Bool) :
    (ReportedType.column ⟨name, Option.some length, scale, none⟩ nullable).currentType =
      withArguments name (toString length) ++ ColumnClause.nullability (Option.some nullable) := by
  have declared : (ReportedType.column ⟨name, Option.some length, scale, none⟩ nullable).declaredSize
      name = Option.some (length : Int) := by
    simp [Column.declaredSize, ReportedType.column, some, sized]
  simp only [Column.currentType, ReportedType.column] at declared ⊢
  simp only [upper, other, declared, nullability_some, withArguments, toString_natCast,
    String.append_assoc, Bool.false_eq_true, if_false]
  rfl

theorem currentType_bare {name : String} (upper : Text.upperCase name = name) (size scale : Option Int)
    (bare : isLocalTimestamp name = true ∨ name = "NCLOB" ∨ size = some 0) (nullable : Bool) :
    (ReportedType.column ⟨name, size, scale, none⟩ nullable).currentType =
      name ++ ColumnClause.nullability (some nullable) := by
  -- None of these types is reported with a size in parentheses.
  have undeclared (other : isLocalTimestamp name = false) :
      (ReportedType.column ⟨name, size, scale, none⟩ nullable).declaredSize name = none := by
    rcases bare with timestamp | rfl | rfl
    next => simp [other] at timestamp
    next => simp [Column.declaredSize]
    next => simp [Column.declaredSize, ReportedType.column]
  simp only [Column.currentType, ReportedType.column] at undeclared ⊢
  simp only [upper, nullability_some]
  by_cases timestamp : isLocalTimestamp name = true
  next =>
    simp only [timestamp, if_true, String.append_empty]
    rfl
  next =>
    simp only [Bool.not_eq_true] at timestamp
    simp only [timestamp, undeclared timestamp, Bool.false_eq_true, if_false, String.append_empty]
    rfl

theorem catalogName_eq_currentType {report : String → ReportedType} (faithful : IsFaithful report)
    {type : String} (h : BaseType type) {c : Column} (same : c.reported = report type) :
    catalogName (type ++ ColumnClause.nullability (some c.nullable)) = c.currentType := by
  -- The current type depends only on what the catalog reports.
  rw [c.currentType_eq, same]
  cases h with
  | number digits places =>
    obtain ⟨size, reported⟩ := faithful.number digits places
    rw [reported, currentType_number]
    exact catalogName_of_head (by decide : 'N' ≠ 'V') (by simp [Attribute.numberType])
  | @text length some =>
    obtain ⟨scale, reported⟩ := faithful.text length
    rw [reported, currentType_sized (by decide +kernel) (by decide) (by decide +kernel) scale some]
    exact catalogName_of_head (by decide : 'N' ≠ 'V') (by simp [Attribute.textType])
  | @character length some =>
    obtain ⟨scale, reported⟩ := faithful.character length
    rw [reported, currentType_sized (by decide +kernel) (by decide) (by decide +kernel) scale some]
    exact catalogName_characterType length _
  | largeText =>
    obtain ⟨size, scale, reported⟩ := faithful.largeText
    rw [reported, currentType_bare (by decide +kernel) size scale (.inr (.inl rfl))]
    exact catalogName_of_head (by decide : 'N' ≠ 'V') (by simp)
  | raw =>
    obtain ⟨scale, reported⟩ := faithful.raw
    rw [reported, currentType_bare (by decide +kernel) _ scale (.inr (.inr rfl))]
    exact catalogName_of_head (by decide : 'L' ≠ 'V') (by simp)
  | timestamp =>
    obtain ⟨size, scale, reported⟩ := faithful.timestamp
    rw [reported, currentType_bare (by decide +kernel) size scale (.inl (by decide +kernel))]
    exact catalogName_of_head (by decide : 'T' ≠ 'V') (by simp [localTimestamp])

end OracleSql
