import OracleSql.Session.Observer
import Mathlib.Data.List.Forall2

set_option autoImplicit false

namespace OracleSql

inductive Call.MakesDocument : Call → Prop where
  | object (fields : List Field) : MakesDocument (.jsonObject fields)
  | array (e : Expr) : MakesDocument (.jsonArray e)
  | grouped (e : Expr) : MakesDocument (.jsonGroupArray e)

/-- A select that has a document among its fields, under this name. -/
def Statement.ProjectsDocument (s : Statement) (name : String) : Prop :=
  ∃ query, s = .select query ∧ ∃ field ∈ query.fields,
    (∃ f, field.expr = .call f ∧ f.MakesDocument) ∧ field.outputName = some name

def SameButCase (a b : String) : Prop :=
  a.toList.map Char.toLower = b.toList.map Char.toLower

def Json.Spells (value doc : Json) : Prop :=
  ∃ text, value = .text text ∧ read? text = some doc

namespace Row

def IsOfDocuments (statement : Option Statement) (key : String) : Prop :=
  ∃ s name, statement = some s ∧ s.ProjectsDocument name ∧ SameButCase name key

inductive Decoded (statement : Option Statement) : String × Json → String × Json → Prop where
  | document {key : String} {value doc : Json} (column : IsOfDocuments statement key)
      (spells : value.Spells doc) : Decoded statement (key, value) (key, doc)
  | elsewhere {key : String} {value : Json} (other : ¬IsOfDocuments statement key) :
      Decoded statement (key, value) (key, value)
  | unread {key : String} {value : Json} (none : ¬∃ doc, value.Spells doc) :
      Decoded statement (key, value) (key, value)

end Row

theorem Expr.isDocument_iff {e : Expr} :
    e.isDocument = true ↔ ∃ f, e = .call f ∧ f.MakesDocument := by
  constructor
  next =>
    unfold isDocument
    split
    next fields => exact fun _ => ⟨_, rfl, .object fields⟩
    next e => exact fun _ => ⟨_, rfl, .array e⟩
    next e => exact fun _ => ⟨_, rfl, .grouped e⟩
    next => exact fun h => absurd h Bool.false_ne_true
  next =>
    rintro ⟨f, rfl, makes⟩
    cases makes <;> rfl

theorem Statement.mem_documentColumns_iff {s : Statement} {name : String} :
    name ∈ s.documentColumns ↔ s.ProjectsDocument name := by
  have fields {field : Field} :
      field ∈ s.fields ↔ ∃ query, s = .select query ∧ field ∈ query.fields := by
    cases s <;> simp [Statement.fields]
  simp only [documentColumns, List.mem_filterMap, List.mem_filter, fields, Expr.isDocument_iff]
  constructor
  next =>
    rintro ⟨field, ⟨⟨query, select, member⟩, document⟩, named⟩
    exact ⟨query, select, field, member, document, named⟩
  next =>
    rintro ⟨query, select, field, member, document, named⟩
    exact ⟨field, ⟨⟨query, select, member⟩, document⟩, named⟩

namespace Row

theorem not_isOfDocuments_none (key : String) : ¬IsOfDocuments none key :=
  fun ⟨_, _, query, _⟩ => nomatch query

theorem isOfDocuments_some_iff {s : Statement} {key : String} :
    IsOfDocuments (some s) key ↔ s.documentColumns.any (sameName key) = true := by
  simp only [IsOfDocuments, SameButCase, List.any_eq_true, sameName, beq_iff_eq,
    Statement.mem_documentColumns_iff]
  constructor
  next =>
    rintro ⟨_, name, query, projects, same⟩
    cases query
    exact ⟨name, projects, same.symm⟩
  next =>
    rintro ⟨name, projects, same⟩
    exact ⟨s, name, rfl, projects, same.symm⟩

theorem decodeCell_of_spells {value doc : Json} (spells : value.Spells doc) :
    decodeCell value = doc := by
  obtain ⟨text, rfl, read⟩ := spells
  rw [decodeCell, read, Option.getD_some]

theorem decodeCell_of_not_spells {value : Json} (none : ¬∃ doc, value.Spells doc) :
    decodeCell value = value := by
  cases value with
  | text s =>
    cases read : Json.read? s with
    | none => rw [decodeCell, read, Option.getD_none]
    | some doc => exact absurd ⟨doc, s, rfl, read⟩ none
  | _ => rfl

theorem decoded_cell (s : Statement) (key : String) (value : Json) :
    Decoded (some s) (key, value)
      (key, if s.documentColumns.any (sameName key) then decodeCell value else value) := by
  by_cases column : IsOfDocuments (some s) key
  next =>
    rw [if_pos (isOfDocuments_some_iff.1 column)]
    by_cases spells : ∃ doc, value.Spells doc
    next =>
      obtain ⟨doc, spells⟩ := spells
      rw [decodeCell_of_spells spells]
      exact .document column spells
    next =>
      rw [decodeCell_of_not_spells spells]
      exact .unread spells
  next =>
    rw [if_neg (mt isOfDocuments_some_iff.2 column)]
    exact .elsewhere column

theorem decoded_decodeColumns (s : Statement) (row : Row) :
    List.Forall₂ (Decoded (some s)) row (row.decodeColumns s.documentColumns) := by
  rw [decodeColumns, List.forall₂_map_right_iff, List.forall₂_same]
  exact fun cell _ => decoded_cell s cell.1 cell.2

theorem decoded_none (row : Row) : List.Forall₂ (Decoded none) row row :=
  List.forall₂_same.2 fun cell _ => .elsewhere (not_isOfDocuments_none cell.1)

end Row

/-- A cell becomes a document exactly if the select has a document under the name of its column and
it holds the text of one. Nothing else is changed. -/
theorem Observer.decodes_documents (name : String) (e : Execution) (rows : List Row) :
    ((documents name).revise e rows).map (List.map Prod.fst) = rows.map (List.map Prod.fst) ∧
      List.Forall₂ (List.Forall₂ (Row.Decoded e.statement)) rows
        ((documents name).revise e rows) ∧
      (e.statement = none → (documents name).revise e rows = rows) := by
  have unchanged (none : e.statement = none) : (documents name).revise e rows = rows := by
    simp only [documents, none]
  have decoded : List.Forall₂ (List.Forall₂ (Row.Decoded e.statement)) rows
      ((documents name).revise e rows) := by
    cases query : e.statement with
    | none =>
      rw [unchanged query, List.forall₂_same]
      exact fun row _ => Row.decoded_none row
    | some s =>
      simp only [documents, query]
      rw [List.forall₂_map_right_iff, List.forall₂_same]
      exact fun row _ => Row.decoded_decodeColumns s row
  refine ⟨?_, decoded, unchanged⟩
  cases query : e.statement with
  | none => rw [unchanged query]
  | some s =>
    simp only [documents, query, List.map_map]
    exact List.map_congr_left fun row _ => Row.map_fst_decodeColumns _ row

def orderCustomers : Query :=
  { Query.ofEntity "Orders" with
    fields := [⟨.named "note", none⟩, ⟨.call (.jsonArray (.named "name")), some "customers"⟩] }

example :
    (Observer.documents "json").revise ⟨"", [], some (.select orderCustomers)⟩
        [[("CUSTOMERS", .text " [7]"), ("NOTE", .text "[7]")], [("CUSTOMERS", .text "7]")]] =
      [[("CUSTOMERS", .array [.int 7]), ("NOTE", .text "[7]")], [("CUSTOMERS", .text "7]")]] := rfl

end OracleSql
