import OracleSql.Options
import OracleSql.Schema.Column
import OracleSql.Schema.ObjectName
import OracleSql.Session.Program
import OracleSql.Text.UpperCase

set_option autoImplicit false

namespace OracleSql

structure Index where
  name : String
  columns : List String
  deriving DecidableEq

inductive ObjectKind where
  | table
  | view
  | sequence
  deriving DecidableEq

namespace Catalog

def ownerPattern (owner : String) : Value :=
  .text ("^" ++ owner ++ "$")

def ownerParams (n : ObjectName) : List Value :=
  match n.owner with
  | some owner => [ownerPattern owner]
  | none => []

def ownerFilter (n : ObjectName) (column : String) : String :=
  match n.owner with
  | some _ => " AND REGEXP_LIKE(" ++ column ++ ",?,'i')"
  | none => ""

def countText (n : ObjectName) : ObjectKind → String
  | .table =>
      r#"SELECT COUNT(*) AS "count" FROM ALL_OBJECTS WHERE OBJECT_TYPE IN ('TABLE')"# ++
        " AND OBJECT_NAME = ?" ++ ownerFilter n "OWNER"
  | .view =>
      r#"SELECT COUNT(*) AS "count" FROM ALL_OBJECTS WHERE OBJECT_TYPE IN ('VIEW')"# ++
        " AND OBJECT_NAME = ?" ++ ownerFilter n "OWNER"
  | .sequence =>
      r#"SELECT COUNT(*) AS "count" FROM ALL_SEQUENCES WHERE SEQUENCE_NAME = ?"# ++
        ownerFilter n "SEQUENCE_OWNER"

def countOf? (rows : List Row) : Option Int :=
  rows.head?.bind fun row => row.int? "count"

def has (kind : ObjectKind) (n : ObjectName) : Action Bool :=
  Action.orNotFound
    (do
      let rows ← Action.execute (countText n kind) (.text n.name :: ownerParams n) none
      let count ← Action.expect (countOf? rows) .noCount
      pure (decide (0 < count)))
    false

def columnsText (table : ObjectName) : String :=
  r#"SELECT c0.COLUMN_NAME AS "name", c0.DATA_TYPE AS "type", c0.COLUMN_ID AS "ordinal","# ++
  " CASE WHEN c0.CHAR_LENGTH > 0 THEN c0.CHAR_LENGTH ELSE c0.DATA_LENGTH END" ++
  r#" AS "size", c0.DATA_SCALE AS "scale", c0.DATA_PRECISION AS "precision","# ++
  r#" CASE WHEN c0.NULLABLE = 'Y' THEN 1 ELSE 0 END AS "nullable","# ++
  r#" CASE WHEN t0.CONSTRAINT_TYPE = 'P' THEN 1 ELSE 0 END AS "primary""# ++
  " FROM ALL_TAB_COLUMNS c0 LEFT JOIN (SELECT cols.TABLE_NAME, cols.COLUMN_NAME, cols.OWNER," ++
  " cons.CONSTRAINT_TYPE FROM ALL_CONSTRAINTS cons INNER JOIN ALL_CONS_COLUMNS cols" ++
  " ON cons.CONSTRAINT_TYPE = 'P' AND cons.CONSTRAINT_NAME = cols.CONSTRAINT_NAME" ++
  " AND cons.OWNER = cols.OWNER WHERE cols.TABLE_NAME = ?) t0" ++
  " ON c0.COLUMN_NAME = t0.COLUMN_NAME AND c0.OWNER = t0.OWNER WHERE c0.TABLE_NAME = ?" ++
  ownerFilter table "c0.OWNER" ++ " ORDER BY c0.COLUMN_ID"

/-- Whatever is missing besides the name counts as empty, nullable and not primary. -/
def columnOf? (row : Row) : Option Column :=
  (row.text? "name").map fun name => {
    name
    dataType := (row.text? "type").getD ""
    ordinal := (row.int? "ordinal").getD 0
    size := row.int? "size"
    scale := row.int? "scale"
    precision := row.int? "precision"
    nullable := (row.flag? "nullable").getD true
    primary := (row.flag? "primary").getD false }

-- A missing table has no columns.
def columns (table : ObjectName) : Action (List Column) :=
  Action.orNotFound
    (do
      let name := Value.text table.name
      let rows ← Action.execute (columnsText table) (name :: name :: ownerParams table) none
      Action.expect (rows.mapM columnOf?) .columnWithoutName)
    []

def indexesText : String :=
  r#"SELECT "indexes"."INDEX_NAME" AS "name", "indexes"."INDEX_TYPE" AS "type","# ++
  r#" "constraints"."CONSTRAINT_TYPE" AS "constraint" FROM USER_INDEXES "indexes""# ++
  r#" LEFT JOIN USER_CONSTRAINTS "constraints""# ++
  r#" ON "indexes"."INDEX_NAME" = "constraints"."INDEX_NAME""# ++
  r#" AND "indexes"."TABLE_NAME" = "constraints"."TABLE_NAME""# ++
  r#" AND "indexes"."TABLE_OWNER" = "constraints"."OWNER""# ++
  r#" WHERE "indexes"."TABLE_NAME" = ? AND "indexes"."TABLE_OWNER" = ?"#

def indexColumnsText : String :=
  r#"SELECT "columns"."COLUMN_NAME" AS "name", "columns"."INDEX_NAME" AS "index""# ++
  r#" FROM USER_IND_COLUMNS "columns" INNER JOIN USER_INDEXES "indexes""# ++
  r#" ON "indexes"."INDEX_NAME" = "columns"."INDEX_NAME""# ++
  r#" AND "indexes"."TABLE_NAME" = "columns"."TABLE_NAME""# ++
  r#" WHERE "indexes"."TABLE_NAME" = ? AND "indexes"."TABLE_OWNER" = ?"# ++
  r#" ORDER BY "columns"."COLUMN_POSITION""#

-- Without an owner the table belongs to the user, whose name the catalog has in upper case.
def indexOwner (options : Options) (table : ObjectName) : String :=
  (table.owner.orElse fun _ => options.user.map Text.upperCase).getD ""

def secondaryNames (rows : List Row) : List String :=
  (rows.filter fun row => row.text? "constraint" != some "P").filterMap fun row => row.text? "name"

def indexColumn? (row : Row) : Option (String × String) := do
  let index ← row.text? "index"
  let column ← row.text? "name"
  pure (index, column)

def columnsOfIndex (rows : List Row) (name : String) : List String :=
  ((rows.filterMap indexColumn?).filter fun e => e.1 == name).map Prod.snd

/-- A name that comes again gets no columns. -/
def gatherIndexes (rows : List Row) (seen : List String) : List String → List Index
  | [] => []
  | name :: rest =>
      ⟨name, if seen.contains name then [] else columnsOfIndex rows name⟩ ::
        gatherIndexes rows (name :: seen) rest

theorem map_name_gatherIndexes (rows : List Row) (seen names : List String) :
    (gatherIndexes rows seen names).map Index.name = names := by
  induction names generalizing seen with
  | nil => rfl
  | cons name rest ih => simp [gatherIndexes, ih]

def indexes (options : Options) (table : ObjectName) : Action (List Index) := do
  let params := [Value.text table.name, .text (indexOwner options table)]
  let rows ← Action.orNotFound (Action.execute indexesText params none) []
  let names := secondaryNames rows
  if names.isEmpty then pure []
  else do
    let rows ← Action.execute indexColumnsText params none
    pure (gatherIndexes rows [] names)

def ownedName? (row : Row) : Option ObjectName := do
  let owner ← row.text? "owner"
  let name ← row.text? "name"
  pure ⟨some owner, name⟩

-- What belongs to the given schema, or else to the user.
def owned (options : Options) (column allOf ofUser : String) : Action (List ObjectName) := do
  let named := column ++ r#" AS "name" FROM "#
  let rows ←
    match options.schema with
    | some owner =>
        Action.execute
          (r#"SELECT OWNER AS "owner", "# ++ named ++ allOf ++ " WHERE REGEXP_LIKE(OWNER,?,'i')")
          [ownerPattern owner] none
    | none => Action.execute (r#"SELECT USER AS "owner", "# ++ named ++ ofUser) [] none
  pure (rows.filterMap ownedName?)

def tables (options : Options) : Action (List ObjectName) :=
  owned options "TABLE_NAME" "ALL_TABLES" "USER_TABLES"

def views (options : Options) : Action (List ObjectName) :=
  owned options "VIEW_NAME" "ALL_VIEWS" "USER_VIEWS"

end Catalog

end OracleSql
