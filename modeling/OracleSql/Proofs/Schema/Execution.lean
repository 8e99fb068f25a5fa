import OracleSql.Proofs.Schema.BaseType

set_option autoImplicit false

namespace OracleSql

open Database

def Attribute.clause (a : Attribute) : ColumnClause :=
  ⟨a.name, a.baseType, some a.isNullable⟩

def Modification.clause (m : Modification) : ColumnClause :=
  ⟨m.target.name, m.target.baseType,
    if m.keepNullability then none else some m.target.isNullable⟩

theorem Attribute.definition_eq (a : Attribute) : a.definition = a.clause.render := by
  simp only [definition, nativeType, nullability, clause, ColumnClause.render, nullability_some,
    String.append_assoc]

theorem Modification.definition_eq (m : Modification) : m.definition = m.clause.render := by
  unfold definition clause
  split
  next => simp [ColumnClause.render, ColumnClause.nullability, String.append_assoc]
  next => exact m.target.definition_eq

theorem Attribute.isType_clause (a : Attribute) : ColumnClause.IsType a.clause.type :=
  a.baseType_isBaseType.isType

theorem Modification.isType_clause (m : Modification) : ColumnClause.IsType m.clause.type :=
  m.target.baseType_isBaseType.isType

namespace SchemaChange

theorem alterText_eq (table : ObjectName) (action : String) (definitions : List String) :
    alterText table action definitions =
      TableStatement.text "ALTER TABLE " table (" " ++ action ++ " ") definitions := by
  have opening : " (" = " " ++ "(" := by decide +kernel
  unfold alterText TableStatement.text
  rw [opening]
  simp only [String.append_assoc]

theorem alterText_add (table : ObjectName) (clauses : List ColumnClause) :
    alterText table "ADD" (clauses.map ColumnClause.render) =
      (TableStatement.add table clauses).render := by
  have action : " " ++ "ADD" ++ " " = " ADD " := by decide +kernel
  rw [alterText_eq, action, TableStatement.render]

theorem alterText_modify (table : ObjectName) (clauses : List ColumnClause) :
    alterText table "MODIFY" (clauses.map ColumnClause.render) =
      (TableStatement.modify table clauses).render := by
  have action : " " ++ "MODIFY" ++ " " = " MODIFY " := by decide +kernel
  rw [alterText_eq, action, TableStatement.render]

def keyItems (table : ObjectName) (attributes : List Attribute) : List TableItem :=
  let names := (attributes.filter Attribute.primary).map Attribute.name
  if names.isEmpty then [] else [.key (table.name ++ "_pk") names]

def tableItems (table : ObjectName) (attributes : List Attribute) : List TableItem :=
  (Attribute.stored attributes).map (fun a => .column a.clause) ++
    keyItems table (Attribute.stored attributes)

theorem isTyped_of_mem_tableItems {table : ObjectName} {attributes : List Attribute}
    {item : TableItem} (h : item ∈ tableItems table attributes) : item.IsTyped := by
  rcases List.mem_append.1 h with column | key
  next =>
    obtain ⟨a, -, rfl⟩ := List.mem_map.1 column
    exact .column a.isType_clause
  next =>
    dsimp only [keyItems] at key
    split at key
    next => cases key
    next =>
      cases List.mem_singleton.1 key
      exact .key _ _

theorem primaryKey_eq (table : ObjectName) (attributes : List Attribute) :
    primaryKey table attributes = (keyItems table attributes).map TableItem.render := by
  unfold primaryKey keyItems
  cases keys : attributes.filter Attribute.primary with
  | nil => rfl
  | cons a rest => simp [TableItem.render, Function.comp_def, String.append_assoc]

theorem tableText_eq (table : ObjectName) (attributes : List Attribute) :
    tableText table attributes = (TableStatement.create table (tableItems table attributes)).render := by
  have columns : (Attribute.stored attributes).map Attribute.definition =
      ((Attribute.stored attributes).map fun a => TableItem.column a.clause).map TableItem.render := by
    rw [List.map_map]
    exact List.map_congr_left fun a _ => a.definition_eq
  have opening : " (" = " " ++ "(" := by decide +kernel
  unfold tableText TableStatement.render TableStatement.text tableItems
  dsimp only
  rw [columns, primaryKey_eq, ← List.map_append, opening]
  simp only [String.append_assoc]

theorem alterText_add_definition (table : ObjectName) (attributes : List Attribute) :
    alterText table "ADD" (attributes.map Attribute.definition) =
      (TableStatement.add table (attributes.map Attribute.clause)).render := by
  have texts : attributes.map Attribute.definition =
      (attributes.map Attribute.clause).map ColumnClause.render := by
    rw [List.map_map]
    exact List.map_congr_left fun a _ => a.definition_eq
  rw [texts, alterText_add]

theorem statements_addColumns (table : ObjectName) {attributes : List Attribute}
    (all : Attribute.stored attributes = attributes) :
    (addColumns table attributes).statements =
      if (attributes.map Attribute.clause).isEmpty then []
      else [(TableStatement.add table (attributes.map Attribute.clause)).render] := by
  simp only [statements, List.isEmpty_map, all, alterText_add_definition]

theorem statements_modifyColumns (table : ObjectName) (columns : List Modification) :
    (modifyColumns table columns).statements =
      if (columns.map Modification.clause).isEmpty then []
      else [(TableStatement.modify table (columns.map Modification.clause)).render] := by
  have texts : columns.map Modification.definition =
      (columns.map Modification.clause).map ColumnClause.render := by
    rw [List.map_map]
    exact List.map_congr_left fun m _ => m.definition_eq
  simp only [statements, List.isEmpty_map, texts, alterText_modify]

end SchemaChange

section Execution

variable {report : String → ReportedType} {tables : Tables} {table : ObjectName} {t : Database.Table}

theorem executeAll_altering {st : TableStatement} (typed : st.IsTyped)
    {step : Database.Table → ColumnClause → Except Refusal Database.Table}
    {clauses : List ColumnClause} (runs : run report tables st = alter tables table step clauses)
    (there : tables table = some t) {t' : Database.Table}
    (accepted : clauses.foldlM step t = .ok t') :
    executeAll report tables (if clauses.isEmpty then [] else [st.render]) =
      .ok (Function.update tables table (some t')) := by
  cases clauses with
  | nil =>
    cases accepted
    -- Without columns there is no statement, and no change.
    rw [Function.update_eq_self_iff.2 there.symm]
    rfl
  | cons clause rest =>
    simp only [List.isEmpty_cons, Bool.false_eq_true, if_false]
    rw [executeAll, List.foldlM_cons, execute_render typed, runs, alter_eq there accepted]
    rfl

variable (report) in
theorem exists_executeAll_add (there : tables table = some t) {attributes : List Attribute}
    (all : Attribute.stored attributes = attributes)
    (distinct : (attributes.map Attribute.name).Nodup)
    (missing : ∀ a ∈ attributes, t.column? a.name = none) :
    ∃ t', executeAll report tables (SchemaChange.addColumns table attributes).statements =
        .ok (Function.update tables table (some t')) ∧
      Table.Changed (Table.IsAdded report) (attributes.map Attribute.clause) t t' := by
  have names : (attributes.map Attribute.clause).map ColumnClause.name =
      attributes.map Attribute.name := by simp [Attribute.clause]
  have typed : (TableStatement.add table (attributes.map Attribute.clause)).IsTyped :=
    .add table (List.forall_mem_map.2 fun a _ => a.isType_clause)
  obtain ⟨t', accepted, changed⟩ := (Table.isLocal_add report).exists_foldlM (names ▸ distinct)
    (List.forall_mem_map.2 missing)
  rw [SchemaChange.statements_addColumns table all]
  exact ⟨t', executeAll_altering typed rfl there accepted, changed⟩

variable (report) in
theorem exists_executeAll_modify (there : tables table = some t) {columns : List Modification}
    (distinct : (columns.map fun m => m.target.name).Nodup)
    (can : ∀ m ∈ columns, Table.CanModify m.clause (t.column? m.target.name)) :
    ∃ t', executeAll report tables (SchemaChange.modifyColumns table columns).statements =
        .ok (Function.update tables table (some t')) ∧
      Table.Changed (Table.IsModified report) (columns.map Modification.clause) t t' := by
  have names : (columns.map Modification.clause).map ColumnClause.name =
      columns.map fun m => m.target.name := by simp [Modification.clause]
  have typed : (TableStatement.modify table (columns.map Modification.clause)).IsTyped :=
    .modify table (List.forall_mem_map.2 fun m _ => m.isType_clause)
  obtain ⟨t', accepted, changed⟩ := (Table.isLocal_modify report).exists_foldlM (names ▸ distinct)
    (List.forall_mem_map.2 can)
  rw [SchemaChange.statements_modifyColumns]
  exact ⟨t', executeAll_altering typed rfl there accepted, changed⟩

end Execution

end OracleSql
