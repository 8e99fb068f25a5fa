import OracleSql.Json.Reader
import OracleSql.Query.Basic
import OracleSql.Session.Row

set_option autoImplicit false

namespace OracleSql

structure Execution where
  sql : String
  params : List Value
  statement : Option Statement

/-- Somebody who watches statements, and may revise the rows of those that succeed. -/
structure Observer where
  name : String
  revise : Execution → List Row → List Row

def Observer.watching (name : String) : Observer :=
  ⟨name, fun _ rows => rows⟩

def Expr.isDocument : Expr → Bool
  | .call (.jsonObject _) | .call (.jsonArray _) | .call (.jsonGroupArray _) => true
  | _ => false

def Statement.documentColumns (s : Statement) : List String :=
  (s.fields.filter fun f => f.expr.isDocument).filterMap Field.outputName

namespace Row

def decodeCell : Json → Json
  | .text s => (Json.read? s).getD (.text s)
  | value => value

def decodeColumns (columns : List String) (row : Row) : Row :=
  row.map fun (key, value) =>
    (key, if columns.any (sameName key) then decodeCell value else value)

theorem map_fst_decodeColumns (columns : List String) (row : Row) :
    (row.decodeColumns columns).map Prod.fst = row.map Prod.fst := by
  simp [decodeColumns, Function.comp_def]

end Row

def Observer.documents (name : String) : Observer where
  name
  revise e rows :=
    match e.statement with
    | some statement => rows.map (Row.decodeColumns statement.documentColumns)
    | none => rows

end OracleSql
