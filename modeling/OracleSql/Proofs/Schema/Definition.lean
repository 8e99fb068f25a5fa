import OracleSql.Proofs.Migration.Insertion
import OracleSql.Proofs.Migration.Service
import OracleSql.Session.Script

set_option autoImplicit false

namespace OracleSql

namespace TableItem

def column? : TableItem → Option String
  | .column clause => some clause.name
  | .key _ _ => none

end TableItem

namespace TableStatement

def definedColumns : TableStatement → List String
  | .create _ items => items.filterMap TableItem.column?
  | .add _ clauses | .modify _ clauses => clauses.map ColumnClause.name

/-- There are columns, and they are among those that are stored for the attributes. -/
structure IsSound (attributes : List Attribute) (st : TableStatement) : Prop where
  some : st.definedColumns ≠ []
  stored : st.definedColumns.Sublist ((Attribute.stored attributes).map Attribute.name)

end TableStatement

theorem Attribute.map_name_sublist_stored_iff (attributes : List Attribute) :
    (attributes.map name).Sublist ((stored attributes).map name) ↔
      stored attributes = attributes := by
  constructor
  next =>
    intro sublist
    refine List.filter_sublist.eq_of_length_le ?_
    simpa [stored] using sublist.length_le
  next =>
    intro all
    rw [all]

def DefinesColumns (table : ObjectName) (attributes : List Attribute) (sql : String) : Prop :=
  ∃ st, TableStatement.read? sql = some st ∧ st.table = table ∧
    st.definedColumns = attributes.map Attribute.name

namespace SchemaChange

variable {table : ObjectName} {attributes : List Attribute} {sql : String}

theorem definesColumns_createTable (h : sql ∈ (createTable table attributes).statements) :
    DefinesColumns table (Attribute.stored attributes) sql := by
  cases List.mem_singleton.1 h
  have keys : (keyItems table (Attribute.stored attributes)).filterMap TableItem.column? = [] := by
    dsimp only [keyItems]
    split
    next => rfl
    next => rfl
  refine ⟨.create table (tableItems table attributes), ?_, rfl, ?_⟩
  next =>
    rw [tableText_eq]
    exact TableStatement.read?_render (.create table fun _ => isTyped_of_mem_tableItems)
  next =>
    rw [TableStatement.definedColumns, tableItems, List.filterMap_append, keys, List.append_nil,
      List.filterMap_map]
    show (Attribute.stored attributes).filterMap (fun a => some a.name) = _
    rw [List.filterMap_eq_map']

theorem definesColumns_addColumns (h : sql ∈ (addColumns table attributes).statements) :
    attributes ≠ [] ∧ DefinesColumns table (Attribute.stored attributes) sql := by
  simp only [statements] at h
  split at h
  next => cases h
  next some =>
    cases List.mem_singleton.1 h
    refine ⟨by simpa using some, .add table ((Attribute.stored attributes).map Attribute.clause), ?_,
      rfl, ?_⟩
    next =>
      rw [alterText_add_definition]
      exact TableStatement.read?_render
        (.add table (List.forall_mem_map.2 fun a _ => a.isType_clause))
    next => simp [TableStatement.definedColumns, Attribute.clause]

theorem definesColumns_modifyColumns {existing : List Column}
    (h : sql ∈ (modifyColumns table (ColumnDiff.modifications attributes existing)).statements) :
    attributes ≠ [] ∧ DefinesColumns table attributes sql := by
  rw [statements_modifyColumns] at h
  split at h
  next => cases h
  next some =>
    cases List.mem_singleton.1 h
    refine ⟨by simpa [ColumnDiff.modifications] using some, _, TableStatement.read?_render
      (.modify table (List.forall_mem_map.2 fun m _ => m.isType_clause)), rfl, ?_⟩
    simp [TableStatement.definedColumns, Modification.clause, ColumnDiff.modifications,
      ColumnDiff.modification]

end SchemaChange

inductive TableCall where
  | create (t : Table) (attributes : List Attribute)
  | add (t : Table) (attributes : List Attribute)
  | modify (t : Table) (attributes : List Attribute) (existing : List Column)
  | change (t : Table) (attributes : List Attribute)
  | migrate (r : Request)

namespace TableCall

variable (options : Options)

def action : TableCall → Action Unit
  | .create t attributes => t.create attributes
  | .add t attributes => t.add attributes
  | .modify t attributes existing => t.modify attributes existing
  | .change t attributes => t.change attributes
  | .migrate r => do
      let _ ← r.migrate options
      pure ()

def table : TableCall → ObjectName
  | .create t _ | .add t _ | .modify t _ _ | .change t _ => t.name
  | .migrate r => ObjectName.resolve r.appliesTo options.schema

def attributes : TableCall → List Attribute
  | .create _ attributes | .add _ attributes | .modify _ attributes _ | .change _ attributes =>
      attributes
  | .migrate r => r.add

def isMigration : TableCall → Bool
  | .migrate _ => true
  | _ => false

-- Nothing is asked of the engine before the definition.
def isDirect : TableCall → Bool
  | .create _ _ | .add _ _ | .modify _ _ _ => true
  | .change _ _ | .migrate _ => false

-- Changes take attributes with columns only. For anything else one such attribute is enough.
def IsFit : TableCall → Prop
  | .create _ attributes | .add _ attributes => Attribute.stored attributes ≠ []
  | .modify _ attributes _ | .change _ attributes => Attribute.stored attributes = attributes
  | .migrate r => Attribute.stored r.add ≠ []

end TableCall

def Defines (sql : String) : Prop :=
  Text.startsWith "CREATE TABLE " sql = true ∨ Text.startsWith "ALTER TABLE " sql = true

theorem not_defines {start : List Char} {sql : String}
    (h : Text.startsWith (String.ofList start) sql = true)
    (create : start.isPrefixOf "CREATE TABLE ".toList = false)
    (create' : "CREATE TABLE ".toList.isPrefixOf start = false)
    (alter : start.isPrefixOf "ALTER TABLE ".toList = false)
    (alter' : "ALTER TABLE ".toList.isPrefixOf start = false) : ¬Defines sql := by
  rintro (creates | alters)
  next => exact ne_of_startsWith creates (startsWith_other h create create') rfl
  next => exact ne_of_startsWith alters (startsWith_other h alter alter') rfl

namespace TableCall

variable (options : Options)

/-- A definition of the call's own table, sound just if the call is fit. -/
def Means (c : TableCall) (sql : String) : Prop :=
  c.attributes ≠ [] ∧ ∃ st, TableStatement.read? sql = some st ∧ st.table = c.table options ∧
    (st.IsSound c.attributes ↔ c.IsFit)

def IsMeant (c : TableCall) : Step → Prop
  | .execute sql _ _ => Defines sql →
      c.isMigration = true ∧ sql = Ledger.createTableText ∨ c.Means options sql
  | _ => True

variable {options} {c : TableCall} {sql : String}

theorem means_of_definesColumns {columns : List Attribute} (some : c.attributes ≠ [])
    (defines : DefinesColumns (c.table options) columns sql)
    (exact : columns ≠ [] ∧
      (columns.map Attribute.name).Sublist ((Attribute.stored c.attributes).map Attribute.name) ↔
        c.IsFit) : c.Means options sql := by
  obtain ⟨st, read, same, defined⟩ := defines
  refine ⟨some, st, read, same, .trans ?_ exact⟩
  constructor
  next =>
    rintro ⟨nonempty, stored⟩
    rw [defined] at nonempty stored
    exact ⟨mt List.map_eq_nil_iff.2 nonempty, stored⟩
  next =>
    rintro ⟨nonempty, stored⟩
    rw [← defined] at stored
    exact ⟨by simpa [defined] using nonempty, stored⟩

theorem isMeant_of_select {params : List Value} {statement : Option Statement}
    (query : Text.startsWith "SELECT " sql = true) :
    c.IsMeant options (.execute sql params statement) :=
  fun defines => absurd defines (not_defines query rfl rfl rfl rfl)

theorem isMeant_createText (sequence : String) :
    c.IsMeant options (.execute (Identity.createText sequence) [] none) :=
  fun defines =>
    absurd defines (not_defines (Identity.startsWith_createText sequence) rfl rfl rfl rfl)

theorem asks_apply {change : SchemaChange}
    (means : ∀ sql ∈ change.statements, c.Means options sql) : change.apply.Asks (c.IsMeant options) :=
  .forM fun sql statement => .perform fun _ => .inr (means sql statement)

theorem asks_has (kind : ObjectKind) (n : ObjectName) :
    (Catalog.has kind n).Asks (c.IsMeant options) :=
  .has_of_execute (isMeant_of_select (startsWith_countText n kind))

theorem asks_columns (n : ObjectName) : (Catalog.columns n).Asks (c.IsMeant options) :=
  .orNotFound (.bind (.execute (isMeant_of_select (startsWith_columnsText n))) fun _ => .expect _ _)

theorem asks_ensureLedger (migration : c.isMigration = true) :
    Ledger.ensure.Asks (c.IsMeant options) := by
  refine .bind (.ledgerKnown trivial) fun known => .ite (.pure ()) ?_
  refine .bind (asks_has _ _) fun there => ?_
  cases there with
  | true => exact .bind (.pure ()) fun _ => .rememberLedger trivial
  | false =>
    refine .bind (.perform fun _ => .inl ⟨migration, rfl⟩) fun _ => ?_
    rw [Ledger.createSequenceText_eq]
    exact .bind (.perform (isMeant_createText _)) fun _ => .rememberLedger trivial

theorem asks_version (appliesTo : String) : (Ledger.version appliesTo).Asks (c.IsMeant options) :=
  .bind (.execute (isMeant_of_select startsWith_versionsText)) fun _ => .pure _

theorem asks_append (entry : Int → LedgerEntry) :
    (Ledger.append options entry).Asks (c.IsMeant options) := by
  have create : (SchemaChange.createSequence
      (Identity.sequence options Ledger.tableName Ledger.idName)).apply.Asks (c.IsMeant options) := by
    rw [SchemaChange.apply_eq_perform rfl]
    exact .perform (isMeant_createText _)
  have insert (params : List Value) : c.IsMeant options (.execute Ledger.insertText params none) :=
    fun defines => absurd defines (not_defines startsWith_insertText rfl rfl rfl rfl)
  refine .bind ?_ fun _ => .bind (.execute (insert _)) fun _ => .pure _
  refine .bind (.bind (asks_has _ _) fun there => .ite (.pure ()) create) fun _ => ?_
  exact .bind (.execute (isMeant_of_select (startsWith_nextText _))) fun _ => .expect _ _

theorem asks_create {t : Table} (same : t.name = c.table options)
    (fit : c.IsFit ↔ Attribute.stored c.attributes ≠ []) :
    (t.create c.attributes).Asks (c.IsMeant options) := by
  rw [Table.create]
  split
  next => exact .throw _
  next some =>
    refine asks_apply fun sql statement => means_of_definesColumns (by simpa using some)
      (same ▸ SchemaChange.definesColumns_createTable statement) (.trans ?_ fit.symm)
    exact and_iff_left (.refl _)

theorem asks_modify {t : Table} (same : t.name = c.table options)
    (fit : c.IsFit ↔ Attribute.stored c.attributes = c.attributes) (existing : List Column) :
    (t.modify c.attributes existing).Asks (c.IsMeant options) := by
  refine asks_apply fun sql statement => ?_
  obtain ⟨some, defines⟩ := SchemaChange.definesColumns_modifyColumns statement
  refine means_of_definesColumns some (same ▸ defines) ((and_iff_right some).trans (.trans ?_ fit.symm))
  exact Attribute.map_name_sublist_stored_iff c.attributes

theorem means_of_sublist {r : Request} {columns : List Attribute} (some : columns ≠ [])
    (sublist : columns.Sublist (Attribute.stored r.add))
    (defines : DefinesColumns (ObjectName.resolve r.appliesTo options.schema) columns sql) :
    (migrate r).Means options sql := by
  have fit : Attribute.stored r.add ≠ [] := by
    intro none
    rw [none] at sublist
    exact some (List.sublist_nil.1 sublist)
  have attributes : r.add ≠ [] := by
    intro none
    rw [none] at fit
    exact fit rfl
  exact means_of_definesColumns attributes defines ⟨fun _ => fit, fun _ => ⟨some, sublist.map _⟩⟩

theorem asks_alter (r : Request) :
    (r.alter (Table.named options r.appliesTo)).Asks ((migrate r).IsMeant options) := by
  refine .bind (asks_columns _) fun existing => .bind (asks_apply fun sql statement => ?_) fun _ => ?_
  next =>
    obtain ⟨some, defines⟩ := SchemaChange.definesColumns_addColumns statement
    rw [ColumnDiff.stored_add] at defines
    exact means_of_sublist some List.filter_sublist defines
  next =>
    split
    next => exact .bind (.pure ()) fun _ => .pure _
    next =>
      refine .bind (asks_apply fun sql statement => ?_) fun _ => .pure _
      obtain ⟨some, defines⟩ := SchemaChange.definesColumns_modifyColumns statement
      exact means_of_sublist some List.filter_sublist defines

theorem asks_migrate (r : Request) :
    (r.migrate options).Asks ((migrate r).IsMeant options) := by
  unfold Request.migrate
  split
  next => exact .throw _
  next =>
    refine .bind (asks_ensureLedger rfl) fun _ => .bind (asks_version _) fun current => ?_
    refine .ite (.pure _) (.bind (asks_has _ _) fun there => .ite ?_ ?_)
    next => exact .bind (asks_alter r) fun _ => .bind (asks_append _) fun _ => .pure _
    next =>
      exact .bind (asks_create (c := migrate r) rfl .rfl) fun _ =>
        .bind (asks_append _) fun _ => .pure _

theorem asks_action (options : Options) (c : TableCall) :
    (c.action options).Asks (c.IsMeant options) := by
  cases c with
  | create t attributes => exact asks_create rfl .rfl
  | add t attributes =>
    refine asks_apply fun sql statement => ?_
    obtain ⟨some, defines⟩ := SchemaChange.definesColumns_addColumns statement
    exact means_of_definesColumns some defines (and_iff_left (.refl _))
  | modify t attributes existing => exact asks_modify rfl .rfl existing
  | change t attributes =>
    exact .ite (.pure ()) (.bind (asks_columns _) fun existing => asks_modify rfl .rfl existing)
  | migrate r =>
    have asks := @asks_migrate options r
    rw [action]
    -- What is asked for is known by now, so the migration need not be unfolded.
    generalize r.migrate options = whole at asks ⊢
    exact .bind asks fun _ => .pure ()

end TableCall

theorem defines_tableText (table : ObjectName) (attributes : List Attribute) :
    Defines (SchemaChange.tableText table attributes) :=
  .inl (SchemaChange.startsWith_tableText table attributes)

theorem defines_alterText (table : ObjectName) (action : String) (definitions : List String) :
    Defines (SchemaChange.alterText table action definitions) :=
  .inr (SchemaChange.startsWith_alterText table action definitions)

open Session

section Calls

variable {σ : Type} (engine : Engine σ) (observers : List Observer) (options : Options)

theorem exists_defines_apply {change : SchemaChange} {sql : String}
    (only : change.statements = [sql]) (defines : Defines sql) (s : Session σ) :
    ∃ e ∈ exchanges engine observers change.apply s, Defines e.sql := by
  rw [SchemaChange.apply_eq_perform only]
  exact ⟨_, List.mem_cons_self, defines⟩

theorem TableCall.exists_defines {c : TableCall} (direct : c.isDirect = true)
    (some : c.attributes ≠ []) (s : Session σ) :
    ∃ e ∈ exchanges engine observers (c.action options) s, Defines e.sql := by
  have nonempty : ¬c.attributes.isEmpty = true := by simpa using some
  cases c with
  | create t attributes =>
    have accepted : t.create attributes = (SchemaChange.createTable t.name attributes).apply :=
      if_neg nonempty
    rw [action, accepted]
    exact exists_defines_apply engine observers rfl (defines_tableText _ _) s
  | add t attributes =>
    have only : (SchemaChange.addColumns t.name attributes).statements = [_] := if_neg nonempty
    exact exists_defines_apply engine observers only (defines_alterText _ _ _) s
  | modify t attributes existing =>
    have columns : ¬(ColumnDiff.modifications attributes existing).isEmpty = true := by
      rw [ColumnDiff.modifications, List.isEmpty_map]
      exact nonempty
    have only : (SchemaChange.modifyColumns t.name
        (ColumnDiff.modifications attributes existing)).statements = [_] := if_neg columns
    exact exists_defines_apply engine observers only (defines_alterText _ _ _) s
  | change | migrate => cases direct

/-- Each statement that defines columns is about the table of the call, apart from the one that
creates the ledger. It defines one column or more, and all of them for stored attributes, just if
the call is fit. -/
theorem TableCall.sound_iff_fit (c : TableCall) (s : Session σ) :
    (∀ e ∈ exchanges engine observers (c.action options) s, Defines e.sql →
        c.isMigration = true ∧ e.sql = Ledger.createTableText ∨ c.Means options e.sql) ∧
      (c.isDirect = true → c.attributes ≠ [] →
        ∃ e ∈ exchanges engine observers (c.action options) s, Defines e.sql) :=
  ⟨fun _ member => sql_of_mem_exchanges (asks_action options c) (fun _ _ _ meant => meant) member,
    fun direct some => exists_defines engine observers options direct some s⟩

end Calls

def orderLines : Attribute :=
  { Attribute.ofType "lines" (.other "OrderLine") with oneToMany := true }

def orderAttributes : List Attribute :=
  [Attribute.ofType "id" .integer, orderLines]

def orderTable : Table :=
  Table.named .empty "Orders"

theorem TableCall.sound_iff_fit_orders :
    (∃ e ∈ exchanges Script.engine [] (action .empty (.create orderTable orderAttributes))
        (Session.start .empty), Defines e.sql ∧
          ∃ st, TableStatement.read? e.sql = some st ∧ st.IsSound orderAttributes) ∧
      ∃ e ∈ exchanges Script.engine [] (action .empty (.modify orderTable orderAttributes []))
        (Session.start .empty), Defines e.sql ∧
          ∃ st, TableStatement.read? e.sql = some st ∧ ¬st.IsSound orderAttributes := by
  have some : orderAttributes ≠ [] := List.cons_ne_nil _ _
  constructor
  next =>
    obtain ⟨all, sends⟩ := TableCall.sound_iff_fit Script.engine [] .empty
      (.create orderTable orderAttributes) (Session.start .empty)
    obtain ⟨e, member, defines⟩ := sends rfl some
    rcases all e member defines with ⟨migration, -⟩ | ⟨-, st, read, -, exact⟩
    next => cases migration
    next => exact ⟨e, member, defines, st, read, exact.2 (by decide : Attribute.stored _ ≠ [])⟩
  next =>
    obtain ⟨all, sends⟩ := TableCall.sound_iff_fit Script.engine [] .empty
      (.modify orderTable orderAttributes []) (Session.start .empty)
    obtain ⟨e, member, defines⟩ := sends rfl some
    rcases all e member defines with ⟨migration, -⟩ | ⟨-, st, read, -, exact⟩
    next => cases migration
    next =>
      exact ⟨e, member, defines, st, read,
        mt exact.1 (by decide : Attribute.stored orderAttributes ≠ orderAttributes)⟩

theorem no_column_added :
    ¬∀ (attributes : List Attribute) (s : Session Script),
      ∀ e ∈ exchanges Script.engine [] (orderTable.add attributes) s, Defines e.sql →
        ∃ st, TableStatement.read? e.sql = some st ∧ st.IsSound attributes := by
  intro always
  have sent : SchemaChange.alterText orderTable.name "ADD" [] ∈
      (SchemaChange.addColumns orderTable.name [orderLines]).statements := List.mem_singleton.2 rfl
  obtain ⟨st, read, sound⟩ := always [orderLines] (Session.start .empty) _ List.mem_cons_self
    (defines_alterText _ _ _)
  obtain ⟨-, st', read', -, defined⟩ := SchemaChange.definesColumns_addColumns sent
  cases read.symm.trans read'
  exact sound.some defined

end OracleSql
