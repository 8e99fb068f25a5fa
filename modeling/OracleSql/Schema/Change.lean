import OracleSql.Schema.Attribute
import OracleSql.Schema.ObjectName

set_option autoImplicit false

namespace OracleSql

/-- A column to be modified. The nullability that a column has already must not be stated again. -/
structure Modification where
  target : Attribute
  keepNullability : Bool
  deriving DecidableEq

def Modification.definition (m : Modification) : String :=
  if m.keepNullability then Name.quote m.target.name ++ " " ++ m.target.baseType
  else m.target.definition

inductive SchemaChange where
  | createTable (table : ObjectName) (attributes : List Attribute)
  | addColumns (table : ObjectName) (attributes : List Attribute)
  | modifyColumns (table : ObjectName) (columns : List Modification)
  | dropTable (table : ObjectName)
  | createSequence (name : String)
  | restartSequence (name : String) (start : Int)
  | createIndex (name : String) (table : ObjectName) (columns : List String)
  | dropIndex (name : String)
  | createView (view : ObjectName) (select : String)
  | dropView (view : ObjectName)
  deriving DecidableEq

namespace SchemaChange

def dialect : String := "oracle"

def primaryKey (table : ObjectName) (attributes : List Attribute) : List String :=
  let names := (attributes.filter Attribute.primary).map fun a => Name.quote a.name
  if names.isEmpty then []
  else
    ["CONSTRAINT " ++ Name.quote (table.name ++ "_pk") ++ " PRIMARY KEY (" ++
      ", ".intercalate names ++ ")"]

def tableText (table : ObjectName) (attributes : List Attribute) : String :=
  let columns := Attribute.stored attributes
  "CREATE TABLE " ++ table.render ++ " (" ++
    ", ".intercalate (columns.map Attribute.definition ++ primaryKey table columns) ++ ")"

def alterText (table : ObjectName) (action : String) (definitions : List String) : String :=
  "ALTER TABLE " ++ table.render ++ " " ++ action ++ " (" ++ ", ".intercalate definitions ++ ")"

def statements : SchemaChange → List String
  | .createTable table attributes => [tableText table attributes]
  | .addColumns table attributes =>
      if attributes.isEmpty then []
      else [alterText table "ADD" ((Attribute.stored attributes).map Attribute.definition)]
  | .modifyColumns table columns =>
      if columns.isEmpty then []
      else [alterText table "MODIFY" (columns.map Modification.definition)]
  | .dropTable table => ["DROP TABLE " ++ table.render]
  | .createSequence name =>
      ["CREATE SEQUENCE " ++ Name.quote name ++ " START WITH 1 INCREMENT BY 1"]
  | .restartSequence name start =>
      ["ALTER SEQUENCE " ++ Name.quote name ++ " RESTART START WITH " ++ toString start ++
        " INCREMENT BY 1"]
  | .createIndex name table columns =>
      ["CREATE INDEX " ++ Name.quote name ++ " ON " ++ table.render ++ "(" ++
        ",".intercalate (columns.map Name.quote) ++ ")"]
  | .dropIndex name => ["DROP INDEX " ++ Name.quote name]
  | .createView view select => ["CREATE VIEW " ++ view.render ++ " AS " ++ select]
  | .dropView view => ["DROP VIEW " ++ view.render]

theorem statements_length_le_one (c : SchemaChange) : c.statements.length ≤ 1 := by
  cases c <;> simp only [statements] <;> (try split) <;> simp

def description : SchemaChange → String
  | .createTable table _ => "Create table '" ++ table.display ++ "'"
  | .addColumns table attributes =>
      "Add " ++ toString attributes.length ++ " column(s) to table '" ++ table.display ++ "'"
  | .modifyColumns table columns =>
      "Modify " ++ toString columns.length ++ " column(s) of table '" ++ table.display ++ "'"
  | .dropTable table => "Drop table '" ++ table.display ++ "'"
  | .createSequence name => "Create sequence '" ++ name ++ "'"
  | .restartSequence name start => "Restart sequence '" ++ name ++ "' at " ++ toString start
  | .createIndex name table _ =>
      "Create index '" ++ name ++ "' on table '" ++ table.display ++ "'"
  | .dropIndex name => "Drop index '" ++ name ++ "'"
  | .createView view _ => "Create view '" ++ view.display ++ "'"
  | .dropView view => "Drop view '" ++ view.display ++ "'"

end SchemaChange

end OracleSql
