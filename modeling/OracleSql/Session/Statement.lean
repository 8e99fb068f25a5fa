import OracleSql.Options
import OracleSql.Schema.Change
import OracleSql.Session.Program

set_option autoImplicit false

namespace OracleSql

def Statement.execute (settings : Settings) (statement : Statement) : Action (List Row) := do
  let sql ← Action.ofChecked (statement.render settings)
  Action.execute sql [] (some statement)

def SchemaChange.apply (change : SchemaChange) : Action Unit :=
  change.statements.forM Action.perform

theorem SchemaChange.apply_eq_perform {change : SchemaChange} {sql : String}
    (text : change.statements = [sql]) : change.apply = Action.perform sql := by
  rw [apply, text]
  exact bind_pure _

def Options.applySession (options : Options) (offset : Int) : Action Unit :=
  (options.sessionStatements offset).forM Action.perform

def hookAfter {α : Type} : Except Failure α → Hook
  | .ok _ => .commit
  | .error _ => .rollback

-- The failure of the body is worth more than that of the hook which ends it.
def finish {α : Type} : Except Failure α → Except Failure Unit → Except Failure α
  | .ok a, .ok () => .ok a
  | .ok _, .error failure => .error failure
  | .error failure, _ => .error failure

@[simp] theorem finish_error {α : Type} (failure : Failure) (finished : Except Failure Unit) :
    finish (.error failure : Except Failure α) finished = .error failure := by
  cases finished <;> rfl

/-- Runs the body between a begin and its commit or rollback. Inside an open transaction the body
is part of that one. -/
def transaction {α : Type} (body : Action α) : Action α :=
  ExceptT.mk do
    let nested ← Program.ask1 .enterTransaction
    if nested then body.run
    else
      match ← (Action.hook .begin).run with
      | .error failure => do
          Program.ask1 .leaveTransaction
          pure (.error failure)
      | .ok () => do
          let result ← body.run
          let finished ← (Action.hook (hookAfter result)).run
          Program.ask1 .leaveTransaction
          pure (finish result finished)

end OracleSql
