import OracleSql.Query.Basic
import OracleSql.Session.Failure
import OracleSql.Session.Row

set_option autoImplicit false

namespace OracleSql

inductive Hook where
  | begin
  | commit
  | rollback
  deriving DecidableEq

inductive Step where
  | execute (sql : String) (params : List Value) (statement : Option Statement)
  | hook (h : Hook)
  -- Marks a transaction as open, and tells whether one was open before.
  | enterTransaction
  | leaveTransaction
  | ledgerKnown
  | rememberLedger

abbrev Step.Answer : Step → Type
  | .execute _ _ _ => Except EngineError (List Row)
  | .hook _ => Except EngineError Unit
  | .enterTransaction => Bool
  | .leaveTransaction => Unit
  | .ledgerKnown => Bool
  | .rememberLedger => Unit

/-- A program is done, or asks for a step and goes on with the answer. -/
inductive Program (α : Type) : Type where
  | done (a : α)
  | ask (step : Step) (next : step.Answer → Program α)

namespace Program

variable {α β : Type}

protected def bind (p : Program α) (f : α → Program β) : Program β :=
  match p with
  | .done a => f a
  | .ask step next => .ask step fun answer => (next answer).bind f

instance : Monad Program where
  pure := .done
  bind := Program.bind

@[simp] theorem ask_bind (step : Step) (next : step.Answer → Program α) (f : α → Program β) :
    (Program.ask step next >>= f) = .ask step fun answer => next answer >>= f := rfl

theorem bind_done (p : Program α) : p >>= Program.done = p := by
  induction p with
  | done a => rfl
  | ask step next ih => simp [ih]

theorem bind_bind {γ : Type} (p : Program α) (f : α → Program β) (g : β → Program γ) :
    p >>= f >>= g = p >>= fun a => f a >>= g := by
  induction p with
  | done a => rfl
  | ask step next ih => simp [ih]

instance : LawfulMonad Program :=
  LawfulMonad.mk' Program bind_done (fun _ _ => rfl) bind_bind

def ask1 (step : Step) : Program step.Answer :=
  .ask step .done

end Program

abbrev Action := ExceptT Failure Program

namespace Action

def engineResult {α : Type} : Except EngineError α → Except Failure α
  | .ok a => .ok a
  | .error e => .error (.engine e)

def execute (sql : String) (params : List Value) (statement : Option Statement) :
    Action (List Row) :=
  ExceptT.mk (engineResult <$> Program.ask1 (.execute sql params statement))

def perform (sql : String) : Action Unit := do
  let _ ← execute sql [] none

def hook (h : Hook) : Action Unit :=
  ExceptT.mk (engineResult <$> Program.ask1 (.hook h))

def ledgerKnown : Action Bool :=
  ExceptT.lift (Program.ask1 .ledgerKnown)

def rememberLedger : Action Unit :=
  ExceptT.lift (Program.ask1 .rememberLedger)

def attempt {α : Type} (action : Action α) : Action (Except Failure α) :=
  ExceptT.lift action.run

-- A missing object gives the default; other failures stay.
def orNotFound {α : Type} (action : Action α) (default : α) : Action α :=
  tryCatch action fun
    | .engine e => if e.isNotFound then pure default else throw (.engine e)
    | failure => throw failure

def expect {α : Type} (a : Option α) (fault : StateFault) : Action α :=
  match a with
  | some a => pure a
  | none => throw (.state fault)

def ofDecoded {α : Type} : Decoded α → Action α
  | .ok a => pure a
  | .error fault => throw (.record fault)

def ofChecked {α : Type} : Checked α → Action α
  | .ok a => pure a
  | .error e => throw (.query e)

end Action

end OracleSql
