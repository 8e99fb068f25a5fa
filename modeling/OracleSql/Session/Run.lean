import OracleSql.Session.Observer
import OracleSql.Session.Program

set_option autoImplicit false

namespace OracleSql

structure Engine (σ : Type) where
  execute : String → List Value → σ → Except EngineError (List Row) × σ
  hook : Hook → σ → Except EngineError Unit × σ

inductive Event where
  | executing (observer : String) (e : Execution)
  | statement (sql : String) (params : List Value)
  | executed (observer : String) (e : Execution) (rows : List Row)
  | hook (h : Hook)

structure Session (σ : Type) where
  engine : σ
  inTransaction : Bool
  ledgerKnown : Bool
  log : List Event

namespace Session

variable {σ : Type}

def start (engine : σ) : Session σ :=
  ⟨engine, false, false, []⟩

def record (s : Session σ) (events : List Event) : Session σ :=
  { s with log := s.log ++ events }

def observe (e : Execution) : List Observer → List Row → List Event × List Row
  | [], rows => ([], rows)
  | o :: rest, rows =>
      let rows := o.revise e rows
      let (events, final) := observe e rest rows
      (.executed o.name e rows :: events, final)

theorem observe_snd (e : Execution) (observers : List Observer) (rows : List Row) :
    (observe e observers rows).2 = observers.foldl (fun rows o => o.revise e rows) rows := by
  induction observers generalizing rows with
  | nil => rfl
  | cons o rest ih => simp [observe, ih]

/-- Observers are told before the engine is, and afterwards only if it succeeds. -/
def execute (engine : Engine σ) (observers : List Observer) (e : Execution) (s : Session σ) :
    Except EngineError (List Row) × Session σ :=
  let before := observers.map fun o => Event.executing o.name e
  let (reply, state) := engine.execute e.sql e.params s.engine
  let s := { s with engine := state }
  match reply with
  | .error error => (.error error, s.record (before ++ [.statement e.sql e.params]))
  | .ok rows =>
      let (after, rows) := observe e observers rows
      (.ok rows, s.record (before ++ .statement e.sql e.params :: after))

def step (engine : Engine σ) (observers : List Observer) :
    (step : Step) → Session σ → step.Answer × Session σ
  | .execute sql params statement, s => s.execute engine observers ⟨sql, params, statement⟩
  | .hook h, s =>
      let (reply, state) := engine.hook h s.engine
      (reply, { s with engine := state }.record [.hook h])
  | .enterTransaction, s => (s.inTransaction, { s with inTransaction := true })
  | .leaveTransaction, s => ((), { s with inTransaction := false })
  | .ledgerKnown, s => (s.ledgerKnown, s)
  | .rememberLedger, s => ((), { s with ledgerKnown := true })

def run {α : Type} (engine : Engine σ) (observers : List Observer) :
    Program α → Session σ → α × Session σ
  | .done a, s => (a, s)
  | .ask asked next, s =>
      let (answer, s) := s.step engine observers asked
      run engine observers (next answer) s

theorem run_bind {α β : Type} (engine : Engine σ) (observers : List Observer) (p : Program α)
    (f : α → Program β) (s : Session σ) :
    run engine observers (p >>= f) s =
      run engine observers (f (run engine observers p s).1) (run engine observers p s).2 := by
  induction p generalizing s with
  | done a => rfl
  | ask asked next ih => simp [run, ih]

end Session

end OracleSql
