import OracleSql.Catalog
import OracleSql.Schema.ObjectName
import OracleSql.Session.Statement

set_option autoImplicit false

namespace OracleSql

namespace Identity

def sequence (options : Options) (entity column : String) : String :=
  sequenceName entity column options.nameLength

def ensure (options : Options) (sequence : String) : Action Unit := do
  if ← Catalog.has .sequence ⟨options.schema, sequence⟩ then pure ()
  else (SchemaChange.createSequence sequence).apply

def nextText (sequence : String) : String :=
  "SELECT " ++ Name.quote sequence ++ r#".nextval AS "resultId" FROM DUAL"#

def next (options : Options) (entity column : String) : Action Int := do
  let sequence := sequence options entity column
  ensure options sequence
  let rows ← Action.execute (nextText sequence) [] none
  Action.expect (rows.head?.bind fun row => row.int? "resultId") (.sequenceWithoutValue sequence)

def maximumText (table : ObjectName) (column : String) : String :=
  "SELECT MAX(" ++ Name.quote column ++ r#") AS "maxValue" FROM "# ++ table.render

/-- One more than the maximum, or one when none can be read. -/
def startAfter (rows : List Row) : Int :=
  match rows.head?.bind fun row => row.int? "maxValue" with
  | some maximum => Text.wrapInt64 (maximum + 1)
  | none => 1

def reset (options : Options) (entity column : String) : Action Int := do
  let sequence := sequence options entity column
  ensure options sequence
  let table := ObjectName.resolve entity options.schema
  let rows ← Action.execute (maximumText table column) [] none
  (SchemaChange.restartSequence sequence (startAfter rows)).apply
  pure (startAfter rows)

end Identity

end OracleSql
