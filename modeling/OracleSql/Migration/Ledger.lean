import OracleSql.Identity
import OracleSql.Migration.Version

set_option autoImplicit false

namespace OracleSql

structure LedgerEntry where
  id : Int
  appliesTo : String
  model : Option String
  version : String
  description : Option String
  deriving DecidableEq

namespace LedgerEntry

def ofOption : Option String → Value
  | some text => .text text
  | none => .null

def params (e : LedgerEntry) : List Value :=
  [.int e.id, .text e.appliesTo, ofOption e.model, .text e.version, ofOption e.description]

def ofRow? (row : Row) : Option LedgerEntry :=
  (row.int? "id").map fun id => {
    id
    appliesTo := (row.text? "appliesTo").getD ""
    model := row.text? "model"
    version := (row.text? "version").getD ""
    description := row.text? "description" }

end LedgerEntry

namespace Ledger

def tableName : String := "migrations"

def idName : String := "id"

def createTableText : String :=
  r#"CREATE TABLE "migrations"("id" NUMBER(10) NOT NULL, "appliesTo" NVARCHAR2(255) NOT NULL,"# ++
  r#" "model" NVARCHAR2(255) NULL, "description" NVARCHAR2(255),"# ++
  r#""version" NVARCHAR2(24) NOT NULL, CONSTRAINT "migrations_pk" PRIMARY KEY ("id"))"#

def createSequenceText : String :=
  r#"CREATE SEQUENCE "migrations_id_seq" START WITH 1 INCREMENT BY 1"#

def insertText : String :=
  r#"INSERT INTO "migrations"("id","appliesTo","model","version","description")"# ++
  " VALUES (?,?,?,?,?)"

def versionsText : String :=
  r#"SELECT "version" FROM "migrations" WHERE "appliesTo"=?"#

def entriesText : String :=
  r#"SELECT "id", "appliesTo", "model", "version", "description" FROM "migrations" ORDER BY "id""#

/-- Creates the ledger unless it is there. A session that has seen it does not look again. -/
def ensure : Action Unit := do
  if ← Action.ledgerKnown then pure ()
  else
    if ← Catalog.has .table ⟨none, tableName⟩ then pure ()
    else do
      Action.perform createTableText
      Action.perform createSequenceText
    Action.rememberLedger

def version (appliesTo : String) : Action String := do
  let rows ← Action.execute versionsText [.text appliesTo] none
  pure (Version.latest (rows.filterMap fun row => row.text? "version"))

def append (options : Options) (entry : Int → LedgerEntry) : Action LedgerEntry := do
  let id ← Identity.next options tableName idName
  let _ ← Action.execute insertText (entry id).params none
  pure (entry id)

def entries : Action (List LedgerEntry) := do
  let rows ← Action.execute entriesText [] none
  Action.expect (rows.mapM LedgerEntry.ofRow?) .entryWithoutId

end Ledger

end OracleSql
