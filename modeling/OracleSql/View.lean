import OracleSql.Catalog
import OracleSql.Session.Statement

set_option autoImplicit false

namespace OracleSql.View

def isThere (view : ObjectName) : Action Bool :=
  Catalog.has .view view

def drop (view : ObjectName) : Action Unit := do
  if ← isThere view then (SchemaChange.dropView view).apply else pure ()

def replace (view : ObjectName) (select : String) : Action Unit := do
  drop view
  (SchemaChange.createView view select).apply

/-- The replacement is committed as a whole or rolled back; a rollback that is refused is what the
caller learns. -/
def create (settings : Settings) (view : ObjectName) (query : Query) : Action Unit := do
  let select ← Action.ofChecked (query.render settings)
  Action.hook .begin
  match ← (replace view select).attempt with
  | .ok () => Action.hook .commit
  | .error failure => do
      Action.hook .rollback
      throw failure

end OracleSql.View
