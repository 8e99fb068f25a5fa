import OracleSql.Table

set_option autoImplicit false

namespace OracleSql

def Table.indexes (options : Options) (t : Table) : Action (List Index) :=
  Catalog.indexes options t.name

namespace Index

def covers (index : Index) (columns : List String) : Bool :=
  index.columns.length == columns.length && columns.all index.columns.contains

/-- An index that covers the columns stays; another one of the name is dropped first. -/
def create (options : Options) (t : Table) (name : String) (columns : List String) :
    Action Unit :=
  let creation := SchemaChange.createIndex name t.name columns
  if columns.isEmpty then throw (.request (.indexWithoutColumns name))
  else do
    let present ← t.indexes options
    match present.find? fun index => index.name == name with
    | none => creation.apply
    | some index =>
        if index.covers columns then pure ()
        else do
          (SchemaChange.dropIndex name).apply
          creation.apply

def drop (options : Options) (t : Table) (name : String) : Action Unit := do
  let present ← t.indexes options
  if present.any fun index => index.name == name then (SchemaChange.dropIndex name).apply
  else pure ()

end Index

end OracleSql
