import Mathlib.Data.List.Nodup
import Mathlib.Logic.Function.Basic
import OracleSql.Proofs.Database.Statement
import OracleSql.Schema.Column

set_option autoImplicit false

namespace OracleSql

structure ReportedType where
  dataType : String
  size : Option Int
  scale : Option Int
  precision : Option Int
  deriving DecidableEq

namespace ColumnClause

variable (report : String → ReportedType)

def newColumn (clause : ColumnClause) (ordinal : Int) : Column where
  name := clause.name
  dataType := (report clause.type).dataType
  ordinal := ordinal
  size := (report clause.type).size
  scale := (report clause.type).scale
  precision := (report clause.type).precision
  nullable := clause.nullable.getD true
  primary := false

@[simp] theorem newColumn_name (clause : ColumnClause) (ordinal : Int) :
    (clause.newColumn report ordinal).name = clause.name := rfl

def revise (clause : ColumnClause) (c : Column) : Column :=
  { clause.newColumn report c.ordinal with
    nullable := clause.nullable.getD c.nullable
    primary := c.primary }

end ColumnClause

namespace Database

structure Table where
  columns : List Column
  distinct : (columns.map Column.name).Nodup

inductive Refusal where
  | unreadable
  | tableExists (table : ObjectName)
  | noSuchTable (table : ObjectName)
  | columnExists (name : String)
  | noSuchColumn (name : String)
  | sameNullability (name : String)
  deriving DecidableEq

namespace Table

def empty : Table :=
  ⟨[], .nil⟩

def column? (t : Table) (name : String) : Option Column :=
  t.columns.find? fun c => c.name == name

theorem column?_eq_none_iff {t : Table} {name : String} :
    t.column? name = none ↔ name ∉ t.columns.map Column.name := by
  simp [column?]

theorem name_of_column? {t : Table} {name : String} {c : Column} (h : t.column? name = some c) :
    c.name = name := by
  simpa using List.find?_some h

def append (t : Table) (c : Column) (fresh : c.name ∉ t.columns.map Column.name) : Table :=
  ⟨t.columns ++ [c], by
    rw [List.map_append, List.map_singleton]
    exact t.distinct.append (List.nodup_singleton _) (List.disjoint_singleton.2 fresh)⟩

def map (t : Table) (f : Column → Column) (keeps : ∀ c, (f c).name = c.name) : Table :=
  ⟨t.columns.map f, by
    rw [List.map_map, show Column.name ∘ f = Column.name from funext keeps]
    exact t.distinct⟩

theorem column?_append (t : Table) (c : Column) (fresh : c.name ∉ t.columns.map Column.name)
    (name : String) : (t.append c fresh).column? name =
      if name = c.name then some c else t.column? name := by
  by_cases same : name = c.name
  next =>
    have none : t.column? c.name = none := column?_eq_none_iff.2 fresh
    unfold column? at none
    simp [column?, append, List.find?_append, same, none]
  next => simp [column?, append, List.find?_append, same, Ne.symm same]

theorem column?_map (t : Table) (f : Column → Column) (keeps : ∀ c, (f c).name = c.name)
    (name : String) : (t.map f keeps).column? name = (t.column? name).map f := by
  have same : (fun c => c.name == name) ∘ f = fun c : Column => c.name == name :=
    funext fun c => by rw [Function.comp_apply, keeps]
  rw [column?, column?, map, List.find?_map, same]

variable (report : String → ReportedType)

def add (t : Table) (clause : ColumnClause) : Except Refusal Table :=
  let c := clause.newColumn report (t.columns.length + 1)
  if fresh : c.name ∉ t.columns.map Column.name then .ok (t.append c fresh)
  else .error (.columnExists c.name)

def revised (clause : ColumnClause) (c : Column) : Column :=
  if c.name = clause.name then clause.revise report c else c

theorem name_revised (clause : ColumnClause) (c : Column) :
    (revised report clause c).name = c.name := by
  unfold revised
  split
  next same => exact same.symm
  next => rfl

def modify (t : Table) (clause : ColumnClause) : Except Refusal Table :=
  match t.column? clause.name with
  | none => .error (.noSuchColumn clause.name)
  | some c =>
      if clause.nullable = some c.nullable then .error (.sameNullability clause.name)
      else .ok (t.map (revised report clause) (name_revised report clause))

def withKey (t : Table) (names : List String) : Table :=
  t.map (fun c => { c with primary := c.primary || names.contains c.name }) fun _ => rfl

structure Changed (change : ColumnClause → Option Column → Option Column → Prop)
    (clauses : List ColumnClause) (t t' : Table) : Prop where
  own : ∀ clause ∈ clauses, change clause (t.column? clause.name) (t'.column? clause.name)
  others : ∀ name, name ∉ clauses.map ColumnClause.name → t'.column? name = t.column? name

/-- A clause is accepted if it suits the column that it names, whatever the others are. -/
def IsLocal (step : Table → ColumnClause → Except Refusal Table)
    (suits : ColumnClause → Option Column → Prop)
    (change : ColumnClause → Option Column → Option Column → Prop) : Prop :=
  ∀ t clause, suits clause (t.column? clause.name) →
    ∃ t', step t clause = .ok t' ∧ Changed change [clause] t t'

theorem IsLocal.exists_foldlM {step : Table → ColumnClause → Except Refusal Table}
    {suits : ColumnClause → Option Column → Prop}
    {change : ColumnClause → Option Column → Option Column → Prop}
    (isLocal : IsLocal step suits change) {clauses : List ColumnClause}
    (distinct : (clauses.map ColumnClause.name).Nodup) {t : Table}
    (all : ∀ clause ∈ clauses, suits clause (t.column? clause.name)) :
    ∃ t', clauses.foldlM step t = .ok t' ∧ Changed change clauses t t' := by
  induction clauses generalizing t with
  | nil => exact ⟨t, rfl, by simp, fun _ _ => rfl⟩
  | cons clause clauses ih =>
    obtain ⟨absent, distinct⟩ := List.nodup_cons.1 distinct
    obtain ⟨middle, accepted, first⟩ := isLocal t clause (all clause (by simp))
    -- the later clauses find their columns as they were before the first
    have unchanged : ∀ later ∈ clauses, middle.column? later.name = t.column? later.name := by
      intro later member
      refine first.others later.name ?_
      rw [List.map_singleton, List.mem_singleton]
      intro same
      exact absent (same ▸ List.mem_map_of_mem member)
    have suitsLater : ∀ later ∈ clauses, suits later (middle.column? later.name) := by
      intro later member
      rw [unchanged later member]
      exact all later (List.mem_cons_of_mem clause member)
    obtain ⟨t', rest, changed⟩ := ih distinct suitsLater
    refine ⟨t', by rw [List.foldlM_cons, accepted]; exact rest, ?_, ?_⟩
    next =>
      intro later member
      rcases List.mem_cons.1 member with rfl | member
      next =>
        -- No later clause names the column of the first one.
        rw [changed.others later.name absent]
        exact first.own later (by simp)
      next =>
        rw [← unchanged later member]
        exact changed.own later member
    next =>
      intro name other
      rw [List.map_cons, List.mem_cons, not_or] at other
      rw [changed.others name other.2, first.others name (by simpa using other.1)]

inductive IsAdded (clause : ColumnClause) (old : Option Column) : Option Column → Prop
  | added (ordinal : Int) : IsAdded clause old (some (clause.newColumn report ordinal))

theorem isLocal_add : IsLocal (add report) (fun _ old => old = none) (IsAdded report) := by
  intro t clause missing
  have fresh : (clause.newColumn report (t.columns.length + 1)).name ∉ t.columns.map Column.name :=
    column?_eq_none_iff.1 missing
  refine ⟨_, dif_pos fresh, ?_, ?_⟩
  next =>
    intro same member
    cases List.mem_singleton.1 member
    rw [column?_append, if_pos (ColumnClause.newColumn_name ..).symm]
    exact .added _
  next =>
    intro name other
    rw [column?_append, if_neg (by simpa using other)]

inductive IsModified (clause : ColumnClause) : Option Column → Option Column → Prop
  | modified (c : Column) : IsModified clause (some c) (some (clause.revise report c))

def CanModify (clause : ColumnClause) (old : Option Column) : Prop :=
  ∃ c, old = some c ∧ clause.nullable ≠ some c.nullable

theorem isLocal_modify : IsLocal (modify report) CanModify (IsModified report) := by
  intro t clause can
  obtain ⟨c, found, differs⟩ := can
  refine ⟨t.map (revised report clause) (name_revised report clause), ?_, ?_, ?_⟩
  next => simp only [modify, found, if_neg differs]
  next =>
    intro same member
    cases List.mem_singleton.1 member
    rw [column?_map, found, Option.map_some, revised, if_pos (name_of_column? found)]
    exact .modified c
  next =>
    intro name other
    rw [column?_map]
    cases kept : t.column? name with
    | none => rfl
    | some d =>
      have apart : d.name ≠ clause.name := by
        rw [name_of_column? kept]
        simpa using other
      rw [Option.map_some, revised, if_neg apart]

end Table

abbrev Tables := ObjectName → Option Table

section Run

variable (report : String → ReportedType)

def alter (tables : Tables) (table : ObjectName)
    (step : Table → ColumnClause → Except Refusal Table) (columns : List ColumnClause) :
    Except Refusal Tables := do
  match tables table with
  | none => throw (.noSuchTable table)
  | some t => return Function.update tables table (some (← columns.foldlM step t))

def clauses (items : List TableItem) : List ColumnClause :=
  items.filterMap fun
    | .column clause => some clause
    | .key _ _ => none

def keyColumns (items : List TableItem) : List String :=
  items.flatMap fun
    | .column _ => []
    | .key _ columns => columns

def run (tables : Tables) : TableStatement → Except Refusal Tables
  | .create table items => do
      match tables table with
      | some _ => throw (.tableExists table)
      | none =>
          let t ← (clauses items).foldlM (Table.add report) .empty
          return Function.update tables table (some (t.withKey (keyColumns items)))
  | .add table columns => alter tables table (Table.add report) columns
  | .modify table columns => alter tables table (Table.modify report) columns

def execute (tables : Tables) (text : String) : Except Refusal Tables :=
  match TableStatement.read? text with
  | none => throw .unreadable
  | some st => run report tables st

def executeAll (tables : Tables) (texts : List String) : Except Refusal Tables :=
  texts.foldlM (execute report) tables

variable {report} {tables : Tables} {table : ObjectName} {t : Table}

theorem execute_render {st : TableStatement} (typed : st.IsTyped) :
    execute report tables st.render = run report tables st := by
  simp only [execute, TableStatement.read?_render typed]

theorem alter_eq {step : Table → ColumnClause → Except Refusal Table} {columns : List ColumnClause}
    {t' : Table} (there : tables table = some t) (accepted : columns.foldlM step t = .ok t') :
    alter tables table step columns = .ok (Function.update tables table (some t')) := by
  simp only [alter, there, accepted]
  rfl

theorem run_create {items : List TableItem} (absent : tables table = none)
    (accepted : (clauses items).foldlM (Table.add report) .empty = .ok t) :
    run report tables (.create table items) =
      .ok (Function.update tables table (some (t.withKey (keyColumns items)))) := by
  simp only [run, absent, accepted]
  rfl

end Run

end Database

end OracleSql
