import OracleSql.Proofs.Session.Nesting
import OracleSql.Proofs.Session.Transcript

set_option autoImplicit false

namespace OracleSql

open Session

namespace View

def lookup (view : ObjectName) (reply : Except EngineError (List Row)) : Exchange :=
  ⟨Catalog.countText view .view, .text view.name :: Catalog.ownerParams view, reply⟩

def dropText (view : ObjectName) : String :=
  "DROP VIEW " ++ view.render

def createText (view : ObjectName) (select : String) : String :=
  "CREATE VIEW " ++ view.render ++ " AS " ++ select

def outcome (reply : Except EngineError (List Row)) : Except Failure Unit :=
  Action.engineResult (reply.map fun _ => ())

section

variable {σ : Type} (engine : Engine σ) (observers : List Observer) (view : ObjectName)

end

end View

end OracleSql
