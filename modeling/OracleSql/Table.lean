import OracleSql.Migration.Ledger
import OracleSql.Schema.Diff

set_option autoImplicit false

namespace OracleSql

structure Table where
  asked : String
  name : ObjectName
  deriving DecidableEq

namespace Table

def named (options : Options) (asked : String) : Table :=
  ⟨asked, ObjectName.resolve asked options.schema⟩

def isThere (t : Table) : Action Bool :=
  Catalog.has .table t.name

def version (t : Table) : Action String :=
  Action.orNotFound (Ledger.version t.asked) Version.initial

def columns (t : Table) : Action (List Column) :=
  Catalog.columns t.name

def hasSequence (t : Table) : Action Bool :=
  Catalog.has .sequence ⟨t.name.owner, t.name.name ++ sequenceEnding⟩

def create (t : Table) (attributes : List Attribute) : Action Unit :=
  if attributes.isEmpty then throw (.request .noColumns)
  else (SchemaChange.createTable t.name attributes).apply

def add (t : Table) (attributes : List Attribute) : Action Unit :=
  (SchemaChange.addColumns t.name attributes).apply

def modify (t : Table) (attributes : List Attribute) (existing : List Column) : Action Unit :=
  (SchemaChange.modifyColumns t.name (ColumnDiff.modifications attributes existing)).apply

-- Changes columns to the given types. The present columns are read first.
def change (t : Table) (attributes : List Attribute) : Action Unit :=
  if attributes.isEmpty then pure ()
  else do
    let existing ← t.columns
    t.modify attributes existing

def drop (t : Table) : Action Unit := do
  if ← t.isThere then (SchemaChange.dropTable t.name).apply else pure ()

end Table

end OracleSql
