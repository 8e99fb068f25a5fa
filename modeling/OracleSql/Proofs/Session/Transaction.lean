import OracleSql.Proofs.Session.Perform
import OracleSql.Session.Script
import OracleSql.Session.Statement

set_option autoImplicit false

namespace OracleSql

def Event.hook? : Event → Option Hook
  | .hook h => some h
  | _ => none

def IsQuiet : Step → Prop
  | .execute _ _ _ | .ledgerKnown | .rememberLedger => True
  | .hook _ | .enterTransaction | .leaveTransaction => False

/-- A body comes to the hooks only by transactions of its own. Their failures are passed on, or
looked at as values. -/
inductive Body : Type → Type 1 where
  | work {α : Type} (action : Action α) (quiet : action.Asks IsQuiet) : Body α
  | andThen {α β : Type} (first : Body α) (next : α → Body β) : Body β
  | attempt {α : Type} (inner : Body α) : Body (Except Failure α)
  | nested {α : Type} (inner : Body α) : Body α

namespace Body

def action {α : Type} : Body α → Action α
  | .work action _ => action
  | .andThen first next => first.action >>= fun a => (next a).action
  | .attempt inner => inner.action.attempt
  | .nested inner => transaction inner.action

def flat {α : Type} : Body α → Action α
  | .work action _ => action
  | .andThen first next => first.flat >>= fun a => (next a).flat
  | .attempt inner => inner.flat.attempt
  | .nested inner => inner.flat

end Body

theorem Action.Asks.attempt {α : Type} {allowed : Step → Prop} {a : Action α}
    (h : a.Asks allowed) : Asks allowed a.attempt :=
  Program.Asks.bind h fun _ => trivial

theorem Body.asks_flat {α : Type} (body : Body α) : body.flat.Asks IsQuiet := by
  induction body with
  | work action quiet => exact quiet
  | andThen first next ihFirst ihNext => exact .bind ihFirst ihNext
  | attempt inner ih => exact .attempt ih
  | nested inner ih => exact ih

namespace Session

variable {σ α β : Type} {engine : Engine σ} {observers : List Observer}

structure Continues (s t : Session σ) : Prop where
  grown : ∃ events, t.log = s.log ++ events ∧ events.filterMap Event.hook? = []
  open_eq : t.inTransaction = s.inTransaction

namespace Continues

variable {s t u : Session σ}

theorem refl (s : Session σ) : Continues s s :=
  ⟨⟨[], by simp⟩, rfl⟩

theorem trans (h : Continues s t) (k : Continues t u) : Continues s u := by
  obtain ⟨⟨first, grown, none⟩, same⟩ := h
  obtain ⟨⟨second, grown', none'⟩, same'⟩ := k
  refine ⟨⟨first ++ second, ?_, ?_⟩, same'.trans same⟩
  next => rw [grown', grown, List.append_assoc]
  next => rw [List.filterMap_append, none, none', List.append_nil]

end Continues

theorem continues_execute (e : Execution) (s : Session σ) :
    Continues s (s.execute engine observers e).2 := by
  obtain ⟨events, grown, only⟩ := exists_log_execute engine observers e s
  refine ⟨⟨events, grown, only Event.hook? (fun _ _ => rfl) fun _ _ _ => rfl⟩, ?_⟩
  unfold execute
  rcases engine.execute e.sql e.params s.engine with ⟨reply, state⟩
  cases reply <;> rfl

theorem continues_of_asks (engine : Engine σ) (observers : List Observer) {action : Action α}
    (quiet : action.Asks IsQuiet) (s : Session σ) :
    Continues s (perform engine observers action s).2 := by
  refine run_of_asks (Continues s) ?_ quiet (.refl s)
  intro step t allowed reached
  cases step with
  | execute sql params statement => exact reached.trans (continues_execute _ t)
  | ledgerKnown => exact reached
  | rememberLedger => exact reached.trans ⟨⟨[], by simp [step]⟩, rfl⟩
  | hook | enterTransaction | leaveTransaction => cases allowed

theorem perform_attempt (action : Action α) (s : Session σ) :
    perform engine observers action.attempt s =
      (.ok (perform engine observers action s).1, (perform engine observers action s).2) := by
  unfold perform
  rw [Action.attempt, ExceptT.run_lift, ← bind_pure_comp, run_bind]
  rfl

theorem perform_transaction_of_open (action : Action α) {s : Session σ}
    (isOpen : s.inTransaction = true) :
    perform engine observers (transaction action) s = perform engine observers action s := by
  -- Entering leaves an open transaction as it is, and the body is all that follows.
  have entered : (s.step engine observers .enterTransaction) = (true, s) := by
    obtain ⟨x, inTransaction, known, log⟩ := s
    cases isOpen
    rfl
  show run engine observers (.ask .enterTransaction _) s = _
  rw [run, entered]
  rfl

end Session

open Session

theorem Body.perform_action_eq_flat {σ α : Type} {engine : Engine σ} {observers : List Observer}
    (body : Body α) {s : Session σ} (isOpen : s.inTransaction = true) :
    perform engine observers body.action s = perform engine observers body.flat s := by
  induction body generalizing s with
  | work action quiet => rfl
  | andThen first next ihFirst ihNext =>
    show perform engine observers (first.action >>= _) s =
      perform engine observers (first.flat >>= _) s
    have stays := (continues_of_asks engine observers first.asks_flat s).open_eq.trans isOpen
    rw [perform_bind, perform_bind, ihFirst isOpen]
    cases result : perform engine observers first.flat s with
    | mk out t =>
      rw [result] at stays
      cases out with
      | error failure => rfl
      | ok a => exact ihNext a stays
  | attempt inner ih =>
    show perform engine observers inner.action.attempt s =
      perform engine observers inner.flat.attempt s
    rw [perform_attempt, perform_attempt, ih isOpen]
  | nested inner ih => exact (perform_transaction_of_open _ isOpen).trans (ih isOpen)

def Session.begun {σ : Type} (s : Session σ) (x : σ) : Session σ :=
  ⟨x, true, s.ledgerKnown, s.log ++ [.hook .begin]⟩

def Session.ended {σ : Type} (s : Session σ) (x : σ) (h : Hook) : Session σ :=
  ⟨x, false, s.ledgerKnown, s.log ++ [.hook h]⟩

/-- The ways in which a transaction around some work comes to its end. -/
inductive Brackets {σ α : Type} (engine : Engine σ) (observers : List Observer) (work : Action α)
    (s : Session σ) : Except Failure α × Session σ → Prop where
  | notBegun {e : EngineError} {x : σ} (refused : engine.hook .begin s.engine = (.error e, x)) :
      Brackets engine observers work s (.error (.engine e), s.ended x .begin)
  | committed {a : α} {t : Session σ} {x y : σ}
      (begins : engine.hook .begin s.engine = (.ok (), x))
      (worked : perform engine observers work (s.begun x) = (.ok a, t))
      (commits : engine.hook .commit t.engine = (.ok (), y)) :
      Brackets engine observers work s (.ok a, t.ended y .commit)
  | notCommitted {a : α} {t : Session σ} {e : EngineError} {x y : σ}
      (begins : engine.hook .begin s.engine = (.ok (), x))
      (worked : perform engine observers work (s.begun x) = (.ok a, t))
      (refused : engine.hook .commit t.engine = (.error e, y)) :
      Brackets engine observers work s (.error (.engine e), t.ended y .commit)
  | rolledBack {failure : Failure} {t : Session σ} {reply : Except EngineError Unit} {x y : σ}
      (begins : engine.hook .begin s.engine = (.ok (), x))
      (failed : perform engine observers work (s.begun x) = (.error failure, t))
      (rolls : engine.hook .rollback t.engine = (reply, y)) :
      Brackets engine observers work s (.error failure, t.ended y .rollback)

theorem Session.perform_hook {σ : Type} (engine : Engine σ) (observers : List Observer) (h : Hook)
    (s : Session σ) : perform engine observers (Action.hook h) s =
      (Action.engineResult (engine.hook h s.engine).1,
        { s with engine := (engine.hook h s.engine).2, log := s.log ++ [.hook h] }) := rfl

section Outermost

variable {σ α : Type} {engine : Engine σ} {observers : List Observer} {action : Action α}
  {s : Session σ}

theorem perform_transaction (outermost : s.inTransaction = false) :
    perform engine observers (transaction action) s =
      run engine observers
        ((Action.hook .begin).run >>= fun begun =>
          match begun with
          | .error failure => do
              Program.ask1 .leaveTransaction
              pure (.error failure)
          | .ok () => do
              let result ← action.run
              let finished ← (Action.hook (hookAfter result)).run
              Program.ask1 .leaveTransaction
              pure (finish result finished))
        { s with inTransaction := true } := by
  have entered : s.step engine observers .enterTransaction =
      (false, { s with inTransaction := true }) := by
    rw [← outermost]
    rfl
  show run engine observers (.ask .enterTransaction _) s = _
  rw [run, entered]
  rfl

theorem perform_transaction_refused (outermost : s.inTransaction = false) {e : EngineError} {x : σ}
    (refused : engine.hook .begin s.engine = (.error e, x)) :
    perform engine observers (transaction action) s = (.error (.engine e), s.ended x .begin) := by
  rw [perform_transaction outermost, run_bind, ← perform, perform_hook, refused]
  rfl

theorem perform_transaction_begun (outermost : s.inTransaction = false) {x y : σ}
    (begins : engine.hook .begin s.engine = (.ok (), x)) {result : Except Failure α}
    {t : Session σ} (worked : perform engine observers action (s.begun x) = (result, t))
    {reply : Except EngineError Unit}
    (ends : engine.hook (hookAfter result) t.engine = (reply, y)) :
    perform engine observers (transaction action) s =
      (finish result (Action.engineResult reply), t.ended y (hookAfter result)) := by
  rw [perform_transaction outermost, run_bind, ← perform, perform_hook, begins]
  -- The body is run, then the hook that its result asks for.
  show run engine observers (action.run >>= _) (s.begun x) = _
  rw [run_bind, ← perform, worked]
  show run engine observers ((Action.hook _).run >>= _) t = _
  rw [run_bind, ← perform, perform_hook, ends]
  rfl

end Outermost

/-- One outermost transaction begins once, does its work and that of all transactions inside it
without a hook, and ends with one hook. Afterwards none is open. -/
theorem Body.brackets_transaction {σ α : Type} (engine : Engine σ) (observers : List Observer)
    (body : Body α) (s : Session σ) (outermost : s.inTransaction = false) :
    Brackets engine observers body.flat s
        (perform engine observers (transaction body.action) s) ∧
      (perform engine observers (transaction body.action) s).2.inTransaction = false ∧
      ∀ t : Session σ, ∃ events,
        (perform engine observers body.flat t).2.log = t.log ++ events ∧
          events.filterMap Event.hook? = [] := by
  have brackets : Brackets engine observers body.flat s
      (perform engine observers (transaction body.action) s) := by
    rcases begins : engine.hook .begin s.engine with ⟨_ | _, x⟩
    next e =>
      rw [perform_transaction_refused outermost begins]
      exact .notBegun begins
    next =>
      rcases worked : perform engine observers body.flat (s.begun x) with ⟨_ | a, t⟩
      all_goals have same := (body.perform_action_eq_flat rfl).trans worked
      -- The result of the work selects the hook, and after a failure no reply matters.
      next failure =>
        rcases rolls : engine.hook .rollback t.engine with ⟨reply, y⟩
        rw [perform_transaction_begun outermost begins same rolls, finish_error]
        exact .rolledBack begins worked rolls
      next =>
        rcases commits : engine.hook .commit t.engine with ⟨_ | _, y⟩
        next e =>
          rw [perform_transaction_begun outermost begins same commits]
          exact .notCommitted begins worked commits
        next =>
          rw [perform_transaction_begun outermost begins same commits]
          exact .committed begins worked commits
  refine ⟨brackets, ?_, fun t => (continues_of_asks engine observers body.asks_flat t).grown⟩
  generalize perform engine observers (transaction body.action) s = out at brackets
  cases brackets <;> rfl

-- A transaction whose failure is passed over inside one that fails later.
def shakyBody : Body Unit :=
  .andThen (.attempt (.nested (.work (Action.perform "DELETE FROM \"a\"") (.perform trivial)))) fun _ =>
    .nested (.work (throw (.state (.other "boom"))) trivial)

def stuckScript : Script :=
  ⟨[.error ⟨"ORA-00942"⟩], fun h => if h = .rollback then some ⟨"ORA-03113"⟩ else none⟩

theorem brackets_shakyBody : (start stuckScript).inTransaction = false ∧
    Brackets Script.engine [] shakyBody.flat (start stuckScript)
      (perform Script.engine [] (transaction shakyBody.action) (start stuckScript)) ∧
    (perform Script.engine [] (transaction shakyBody.action) (start stuckScript)).1 =
      .error (.state (.other "boom")) ∧
    (perform Script.engine [] (transaction shakyBody.action) (start stuckScript)).2.log =
      [.hook .begin, .statement "DELETE FROM \"a\"" [], .hook .rollback] :=
  ⟨rfl, (shakyBody.brackets_transaction Script.engine [] (start stuckScript) rfl).1, rfl, rfl⟩

end OracleSql
