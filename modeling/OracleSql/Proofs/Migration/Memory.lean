import OracleSql.Proofs.Migration.Service

set_option autoImplicit false

namespace OracleSql

open Sql

def Column.IsReadable (c : Column) : Prop :=
  ∀ n ∈ [some c.ordinal, c.size, c.scale, c.precision].filterMap id, Row.clamp n = n

instance (c : Column) : Decidable c.IsReadable :=
  inferInstanceAs (Decidable (∀ n ∈ [some c.ordinal, c.size, c.scale, c.precision].filterMap id, _))

def Database.Table.IsReadable (t : Database.Table) : Prop :=
  ∀ c ∈ t.columns, c.IsReadable

instance (t : Database.Table) : Decidable t.IsReadable :=
  inferInstanceAs (Decidable (∀ c ∈ t.columns, _))

theorem TableStatement.startsWith_render (st : TableStatement) :
    Text.startsWith "CREATE TABLE " st.render = true ∨
      Text.startsWith "ALTER TABLE " st.render = true := by
  have text (verb : String) (table : ObjectName) (action : String) (items : List String) :
      Text.startsWith verb (TableStatement.text verb table action items) = true := by
    unfold TableStatement.text
    iterate 5 refine startsWith_append ?_ _
    simp [Text.startsWith]
  cases st with
  | create => exact .inl (text ..)
  | add | modify => exact .inr (text ..)

-- There is no blank between the name of the ledger and its columns.
theorem TableStatement.read?_createTableText :
    TableStatement.read? Ledger.createTableText = none := by
  unfold Ledger.createTableText TableStatement.read?
  rw [String.toList_append, String.toList_append, String.toList_ofList, String.toList_ofList,
    String.toList_ofList]
  decide +kernel

-- A database in memory that serves migrations. Owners play no part in it, and one counter stands
-- behind all sequences.
structure Memory where
  tables : String → Option { t : Database.Table // t.IsReadable }
  sequences : String → Bool
  rows : List LedgerEntry
  drawn : Int

namespace Memory

def empty : Memory :=
  ⟨fun _ => none, fun _ => false, [], 0⟩

def withTable (x : Memory) (name : String) (t : { t : Database.Table // t.IsReadable }) : Memory :=
  { x with tables := Function.update x.tables name (some t) }

def ledgerTable : { t : Database.Table // t.IsReadable } where
  val := {
    columns :=
      [ ⟨"id", "NUMBER", 1, some 22, none, some 10, false, true⟩,
        ⟨"appliesTo", "NVARCHAR2", 2, some 255, none, none, false, false⟩,
        ⟨"model", "NVARCHAR2", 3, some 255, none, none, true, false⟩,
        ⟨"description", "NVARCHAR2", 4, some 255, none, none, true, false⟩,
        ⟨"version", "NVARCHAR2", 5, some 24, none, none, false, false⟩ ]
    distinct := by decide }
  property := by decide

def reading : Reading Memory String where
  contents x := ⟨fun name => (x.tables name).map Subtype.val, x.sequences, x.rows⟩
  place n := n.name
  report := ColumnDiff.readReport
  ledgerTable := ledgerTable.val
  listed rows appliesTo := versionsOf appliesTo (rows.map fun e => (e.appliesTo, e.version))
  listed_perm _ _ := .refl _

def firstText : List Value → String
  | .text s :: _ => s
  | _ => ""

def countRow (there : Bool) : Row :=
  [("count", .int (if there then 1 else 0))]

def optionalNumber : Option Int → Json
  | some n => .int n
  | none => .null

def columnRow (c : Column) : Row :=
  [ ("name", .text c.name), ("type", .text c.dataType), ("ordinal", .int c.ordinal),
    ("size", optionalNumber c.size), ("scale", optionalNumber c.scale),
    ("precision", optionalNumber c.precision), ("nullable", .bool c.nullable),
    ("primary", .bool c.primary) ]

def versionRow (version : String) : Row :=
  [("version", .text version)]

def tablesStart : String :=
  r#"SELECT COUNT(*) AS "count" FROM ALL_OBJECTS"#

def sequencesStart : String :=
  r#"SELECT COUNT(*) AS "count" FROM ALL_SEQUENCES"#

def columnsStart : String :=
  "SELECT c0."

def select (sql : String) (params : List Value) (x : Memory) : List Row × Memory :=
  if Text.startsWith tablesStart sql then ([countRow (x.tables (firstText params)).isSome], x)
  else if Text.startsWith sequencesStart sql then ([countRow (x.sequences (firstText params))], x)
  else if Text.startsWith columnsStart sql then
    match x.tables (firstText params) with
    | some t => (t.val.columns.map columnRow, x)
    | none => ([], x)
  else if sql = Ledger.versionsText then
    ((reading.listed x.rows (firstText params)).map versionRow, x)
  else ([[("resultId", .int (x.drawn + 1))]], { x with drawn := x.drawn + 1 })

def optionalText : Value → Option String
  | .text s => some s
  | _ => none

def readEntry? : List Value → Option LedgerEntry
  | [.int id, .text appliesTo, model, .text version, description] =>
      some ⟨id, appliesTo, optionalText model, version, optionalText description⟩
  | _ => none

def readSequence? (sql : String) : Option String := do
  match ← after? "CREATE SEQUENCE " (← scan sql.toList) with
  | .quoted .name name :: _ => some (String.ofList name)
  | _ => none

def refuse (x : Memory) (message : String) : Except EngineError (List Row) × Memory :=
  (.error ⟨message⟩, x)

def nameTaken : String :=
  "ORA-00955: name is already used by an existing object"

def change (st : TableStatement) (x : Memory) : Except EngineError (List Row) × Memory :=
  match Database.run ColumnDiff.readReport (reading.tables x) st with
  | .error _ => x.refuse nameTaken
  | .ok after =>
      match after st.table with
      | none => x.refuse "ORA-00900: invalid SQL statement"
      | some t =>
          if readable : t.IsReadable then (.ok [], x.withTable st.table.name ⟨t, readable⟩)
          else x.refuse "ORA-01727: numeric precision specifier is out of range"

def define (sql : String) (x : Memory) : Except EngineError (List Row) × Memory :=
  match TableStatement.read? sql with
  | some st => change st x
  | none =>
      if sql = Ledger.createTableText then (.ok [], x.withTable Ledger.tableName ledgerTable)
      else
        match readSequence? sql with
        | none => x.refuse "ORA-00900: invalid SQL statement"
        | some name =>
            if x.sequences name then x.refuse nameTaken
            else (.ok [], { x with sequences := Function.update x.sequences name true })

def execute (sql : String) (params : List Value) (x : Memory) :
    Except EngineError (List Row) × Memory :=
  if Text.startsWith "SELECT " sql then
    let (rows, y) := select sql params x
    (.ok rows, y)
  else if sql = Ledger.insertText then
    match readEntry? params with
    | some e => (.ok [], { x with rows := x.rows ++ [e] })
    | none => x.refuse "ORA-00947: not enough values"
  else define sql x

def engine : Engine Memory where
  execute := execute
  hook _ x := (.ok (), x)

theorem int?_optionalNumber {row : Row} {column : String} {n : Option Int}
    (value : row.value? column = some (optionalNumber n)) (fits : ∀ m ∈ n, Row.clamp m = m) :
    row.int? column = n := by
  cases n with
  | none =>
    rw [Row.int?, value]
    rfl
  | some m =>
    rw [Row.int?, value]
    exact congrArg some (fits m rfl)

theorem columnOf?_columnRow {c : Column} (readable : c.IsReadable) :
    Catalog.columnOf? (columnRow c) = some c := by
  have fits (n : Option Int) (own : n ∈ [some c.ordinal, c.size, c.scale, c.precision]) :
      ∀ m ∈ n, Row.clamp m = m := by
    rintro m rfl
    exact readable m (List.mem_filterMap.2 ⟨some m, own, rfl⟩)
  have name : (columnRow c).text? "name" = some c.name := rfl
  have dataType : (columnRow c).text? "type" = some c.dataType := rfl
  have ordinal : (columnRow c).int? "ordinal" = some c.ordinal :=
    int?_optionalNumber rfl (fits (some c.ordinal) (by simp))
  have size : (columnRow c).int? "size" = c.size := int?_optionalNumber rfl (fits c.size (by simp))
  have scale : (columnRow c).int? "scale" = c.scale :=
    int?_optionalNumber rfl (fits c.scale (by simp))
  have precision : (columnRow c).int? "precision" = c.precision :=
    int?_optionalNumber rfl (fits c.precision (by simp))
  have nullable : (columnRow c).flag? "nullable" = some c.nullable := rfl
  have primary : (columnRow c).flag? "primary" = some c.primary := rfl
  simp only [Catalog.columnOf?, name, dataType, ordinal, size, scale, precision, nullable, primary,
    Option.map_some, Option.getD_some]

theorem readEntry?_params (e : LedgerEntry) : readEntry? e.params = some e := by
  obtain ⟨id, appliesTo, model, version, description⟩ := e
  cases model <;> cases description <;> rfl

theorem scan_createText (name : String) :
    scan (Identity.createText name).toList =
      some (plains "CREATE SEQUENCE " ++ (.quoted .name name.toList ::
        plains " START WITH 1 INCREMENT BY 1")) := by
  have all := ((written_quote name).before " START WITH 1 INCREMENT BY 1" (by decide +kernel)).after
    "CREATE SEQUENCE " (by decide)
  rw [← String.append_assoc] at all
  exact scan_eq_some_iff.2 all

theorem readSequence?_createText (name : String) :
    readSequence? (Identity.createText name) = some name := by
  simp [readSequence?, scan_createText]

theorem read?_createText (name : String) :
    TableStatement.read? (Identity.createText name) = none := by
  simp [TableStatement.read?, scan_createText, TableStatement.readTokens?, after?, afterChars?,
    plains]

variable {x : Memory} {sql : String} {params : List Value}

theorem engine_execute : engine.execute = execute := rfl

theorem execute_select (query : Text.startsWith "SELECT " sql = true) :
    engine.execute sql params x = (.ok (select sql params x).1, (select sql params x).2) :=
  if_pos query

theorem reads_select (query : Text.startsWith "SELECT " sql = true) {rows : List Row}
    (selects : select sql params x = (rows, x)) {told : List Row → Prop} (good : told rows) :
    reading.Reads ∅ x told (engine.execute sql params x) := by
  rw [execute_select query, selects]
  exact .replied ⟨rfl, good⟩

theorem select_countTable (n : ObjectName) (params : List Value) (x : Memory) :
    select (Catalog.countText n .table) params x =
      ([countRow (x.tables (firstText params)).isSome], x) := by
  have starts : Text.startsWith tablesStart (Catalog.countText n .table) = true := by
    unfold Catalog.countText
    exact startsWith_append (startsWith_append (startsWith_literal rfl) _) _
  rw [select, if_pos starts]

theorem select_countSequence (n : ObjectName) (params : List Value) (x : Memory) :
    select (Catalog.countText n .sequence) params x =
      ([countRow (x.sequences (firstText params))], x) := by
  have starts : Text.startsWith sequencesStart (Catalog.countText n .sequence) = true := by
    unfold Catalog.countText
    exact startsWith_append (startsWith_literal rfl) _
  have other : Text.startsWith tablesStart (Catalog.countText n .sequence) = false :=
    startsWith_other starts rfl rfl
  rw [select, other, if_neg Bool.false_ne_true, if_pos starts]

theorem select_columns (n : ObjectName) {params : List Value} {x : Memory}
    {t : { t : Database.Table // t.IsReadable }} (there : x.tables (firstText params) = some t) :
    select (Catalog.columnsText n) params x = (t.val.columns.map columnRow, x) := by
  have starts : Text.startsWith columnsStart (Catalog.columnsText n) = true :=
    startsWith_column_columnsText n
  have other : Text.startsWith tablesStart (Catalog.columnsText n) = false :=
    startsWith_other starts rfl rfl
  have other' : Text.startsWith sequencesStart (Catalog.columnsText n) = false :=
    startsWith_other starts rfl rfl
  rw [select, other, other', if_neg Bool.false_ne_true, if_neg Bool.false_ne_true, if_pos starts,
    there]

theorem select_versions (params : List Value) (x : Memory) :
    select Ledger.versionsText params x =
      ((reading.listed x.rows (firstText params)).map versionRow, x) := by
  have other : Text.startsWith tablesStart Ledger.versionsText = false := startsWith_literal rfl
  have other' : Text.startsWith sequencesStart Ledger.versionsText = false := startsWith_literal rfl
  have other'' : Text.startsWith columnsStart Ledger.versionsText = false := startsWith_literal rfl
  rw [select, other, other', other'', if_neg Bool.false_ne_true, if_neg Bool.false_ne_true,
    if_neg Bool.false_ne_true, if_pos rfl]

theorem select_next (sequence : String) (params : List Value) (x : Memory) :
    select (Identity.nextText sequence) params x =
      ([[("resultId", .int (x.drawn + 1))]], { x with drawn := x.drawn + 1 }) := by
  have starts : Text.startsWith "SELECT \"" (Identity.nextText sequence) = true := by
    simp [Text.startsWith, Identity.nextText, Name.quote, String.toList_append]
  have other : Text.startsWith tablesStart (Identity.nextText sequence) = false :=
    startsWith_other starts rfl rfl
  have other' : Text.startsWith sequencesStart (Identity.nextText sequence) = false :=
    startsWith_other starts rfl rfl
  have other'' : Text.startsWith columnsStart (Identity.nextText sequence) = false :=
    startsWith_other starts rfl rfl
  rw [select, other, other', other'', if_neg Bool.false_ne_true, if_neg Bool.false_ne_true,
    if_neg Bool.false_ne_true, if_neg (Identity.nextText_ne_versionsText sequence)]

theorem execute_insert (e : LedgerEntry) (x : Memory) :
    engine.execute Ledger.insertText e.params x = (.ok [], { x with rows := x.rows ++ [e] }) := by
  have other : Text.startsWith "SELECT " Ledger.insertText = false :=
    startsWith_other startsWith_insertText rfl rfl
  rw [engine_execute, execute, other, if_neg Bool.false_ne_true, if_pos rfl, readEntry?_params]

theorem execute_define {start : List Char}
    (starts : Text.startsWith (String.ofList start) sql = true)
    (select : start.isPrefixOf "SELECT ".toList = false ∧ "SELECT ".toList.isPrefixOf start = false)
    (insert : start.isPrefixOf "INSERT ".toList = false ∧
      "INSERT ".toList.isPrefixOf start = false) :
    engine.execute sql params x = define sql x := by
  have other : Text.startsWith "SELECT " sql = false := startsWith_other starts select.1 select.2
  have other' : sql ≠ Ledger.insertText :=
    ne_of_startsWith starts (startsWith_other startsWith_insertText insert.2 insert.1)
  rw [engine_execute, execute, other, if_neg Bool.false_ne_true, if_neg other']

theorem execute_createLedger (params : List Value) (x : Memory) :
    engine.execute Ledger.createTableText params x =
      (.ok [], x.withTable Ledger.tableName ledgerTable) := by
  rw [execute_define startsWith_createTableText (by decide) (by decide), define,
    TableStatement.read?_createTableText]
  exact if_pos rfl

theorem execute_createSequence (name : String) (params : List Value) (x : Memory) :
    engine.execute (Identity.createText name) params x =
      if x.sequences name then x.refuse nameTaken
      else (.ok [], { x with sequences := Function.update x.sequences name true }) := by
  have starts := Identity.startsWith_createText name
  have other : Identity.createText name ≠ Ledger.createTableText :=
    ne_of_startsWith starts (startsWith_other startsWith_createTableText rfl rfl)
  rw [execute_define starts (by decide) (by decide), define, read?_createText]
  show (if Identity.createText name = Ledger.createTableText then _ else _) = _
  rw [if_neg other, readSequence?_createText]

theorem execute_render {st : TableStatement} (typed : st.IsTyped) (params : List Value)
    (x : Memory) : engine.execute st.render params x = change st x := by
  rcases st.startsWith_render with creates | alters
  next =>
    rw [execute_define creates (by decide) (by decide), define, TableStatement.read?_render typed]
  next =>
    rw [execute_define alters (by decide) (by decide), define, TableStatement.read?_render typed]

theorem contents_withTable (name : String) (t : { t : Database.Table // t.IsReadable }) :
    reading.contents (x.withTable name t) = (reading.contents x).withTable name (some t.val) := by
  have tables (other : String) : ((x.withTable name t).tables other).map Subtype.val =
      Function.update (fun name => (x.tables name).map Subtype.val) name (some t.val) other := by
    simp only [withTable, Function.update_apply]
    split <;> rfl
  simp only [reading, Contents.withTable, funext tables]
  rfl

theorem holds_iff {t : Database.Table} : reading.Holds t ↔ t.IsReadable := by
  constructor
  next =>
    rintro ⟨x, name, there⟩
    obtain ⟨stored, -, rfl⟩ := Option.map_eq_some_iff.1 there
    exact stored.property
  next =>
    intro readable
    exact ⟨empty.withTable "t" ⟨t, readable⟩, "t", by
      rw [contents_withTable, Contents.tables_withTable, Function.update_self]⟩

theorem change_eq {st : TableStatement} {after : Database.Tables} {t : Database.Table}
    (runs : Database.run ColumnDiff.readReport (reading.tables x) st = .ok after)
    (becomes : after st.table = some t) : change st x =
      if readable : t.IsReadable then (.ok [], x.withTable st.table.name ⟨t, readable⟩)
      else x.refuse "ORA-01727: numeric precision specifier is out of range" := by
  rw [change, runs]
  simp only [becomes]

theorem counts_countRow (there : Bool) :
    ∃ count, Catalog.countOf? [countRow there] = some count ∧ (0 < count ↔ there = true) := by
  cases there with
  | true => exact ⟨1, rfl, by decide⟩
  | false => exact ⟨0, rfl, by decide⟩

theorem serves (options : Options) (r : Request) : reading.Serves engine options r ∅ where
  findsTable n x := by
    refine reads_select (startsWith_countText n .table) (select_countTable n _ x) ?_
    have same : (reading.tables x n).isSome = (x.tables n.name).isSome := Option.isSome_map
    rw [same]
    exact counts_countRow _
  findsSequence name x :=
    reads_select (startsWith_countText _ .sequence) (select_countSequence _ _ x) (counts_countRow _)
  columns n x t there := by
    obtain ⟨stored, found, rfl⟩ := Option.map_eq_some_iff.1 there
    refine reads_select (startsWith_columnsText n) (select_columns n found) ?_
    exact mapM_map_eq_some fun c member => columnOf?_columnRow (stored.property c member)
  versions appliesTo x _ := by
    refine reads_select startsWith_versionsText (select_versions _ x) ?_
    rw [List.filterMap_map]
    exact List.filterMap_some
  changes st x after t typed runs becomes held := by
    rw [execute_render typed, change_eq runs becomes, dif_pos (holds_iff.1 held)]
    exact .replied (contents_withTable _ _)
  refuses st x after t typed runs becomes apart := by
    rw [execute_render typed, change_eq runs becomes, dif_neg (mt holds_iff.2 apart)]
    exact ⟨_, rfl⟩
  makesLedger x _ := by
    rw [execute_createLedger]
    exact .replied (contents_withTable _ _)
  makesSequence name x absent := by
    rw [execute_createSequence, show x.sequences name = false from absent,
      if_neg Bool.false_ne_true]
    exact .replied rfl
  refusesSequence name x there := by
    rw [execute_createSequence, show x.sequences name = true from there, if_pos rfl]
    exact ⟨_, rfl⟩
  draws x _ _ := by
    rw [execute_select (startsWith_nextText _), select_next]
    refine .replied ⟨rfl, Row.clamp (x.drawn + 1), rfl, ?_⟩
    rw [execute_insert]
    exact .replied rfl

end Memory

end OracleSql
