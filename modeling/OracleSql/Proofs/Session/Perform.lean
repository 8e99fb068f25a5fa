import OracleSql.Session.Run

set_option autoImplicit false

namespace OracleSql

namespace Program

variable {α β : Type} {allowed : Step → Prop}

def Asks (allowed : Step → Prop) : Program α → Prop
  | .done _ => True
  | .ask step next => allowed step ∧ ∀ answer, (next answer).Asks allowed

theorem Asks.bind {p : Program α} {f : α → Program β} (h : p.Asks allowed)
    (k : ∀ a, (f a).Asks allowed) : (p >>= f).Asks allowed := by
  induction p with
  | done a => exact k a
  | ask step next ih => exact ⟨h.1, fun answer => ih answer (h.2 answer)⟩

end Program

namespace Action

variable {α β : Type} {allowed : Step → Prop}

def Asks (allowed : Step → Prop) (action : Action α) : Prop :=
  Program.Asks allowed action.run

namespace Asks

theorem pure (a : α) : Asks allowed (Pure.pure a : Action α) :=
  trivial

theorem throw (failure : Failure) : Asks allowed (MonadExcept.throw failure : Action α) :=
  trivial

theorem bind {a : Action α} {f : α → Action β} (h : a.Asks allowed)
    (k : ∀ x, (f x).Asks allowed) : Asks allowed (a >>= f) := by
  refine Program.Asks.bind h fun result => ?_
  -- A failure ends the program, so nothing more is asked.
  cases result with
  | ok x => exact k x
  | error failure => trivial

theorem execute {sql : String} {params : List Value} {statement : Option Statement}
    (h : allowed (.execute sql params statement)) :
    Asks allowed (Action.execute sql params statement) :=
  ⟨h, fun _ => trivial⟩

theorem perform {sql : String} (h : allowed (.execute sql [] none)) :
    Asks allowed (Action.perform sql) :=
  bind (execute h) fun _ => pure ()

theorem ledgerKnown (h : allowed .ledgerKnown) : Asks allowed Action.ledgerKnown :=
  ⟨h, fun _ => trivial⟩

theorem rememberLedger (h : allowed .rememberLedger) : Asks allowed Action.rememberLedger :=
  ⟨h, fun _ => trivial⟩

theorem orNotFound {a : Action α} {default : α} (h : a.Asks allowed) :
    Asks allowed (Action.orNotFound a default) := by
  refine Program.Asks.bind h fun result => ?_
  cases result with
  | ok x => trivial
  -- Only a missing entity is made up for, and nothing is asked for it.
  | error failure =>
    cases failure with
    | engine e =>
      show Program.Asks allowed (ExceptT.run (if e.isNotFound then _ else _))
      split
      next => trivial
      next => trivial
    | request | record | query | state => trivial

theorem expect (a : Option α) (fault : StateFault) : Asks allowed (Action.expect a fault) := by
  cases a <;> trivial

theorem ite {p : Prop} [Decidable p] {a b : Action α} (ha : a.Asks allowed) (hb : b.Asks allowed) :
    Asks allowed (if p then a else b) := by
  split
  next => exact ha
  next => exact hb

theorem forM {items : List α} {f : α → Action Unit} (h : ∀ a ∈ items, (f a).Asks allowed) :
    Asks allowed (items.forM f) := by
  induction items with
  | nil => trivial
  | cons a rest ih =>
    exact bind (h a List.mem_cons_self) fun _ => ih fun b member => h b (List.mem_cons_of_mem a member)

end Asks

end Action

def Event.sql? : Event → Option String
  | .statement sql _ => some sql
  | _ => none

namespace Session

variable {σ α β : Type} {engine : Engine σ} {observers : List Observer}

def statements (s : Session σ) : List String :=
  s.log.filterMap Event.sql?

theorem run_of_asks {allowed : Step → Prop} (inv : Session σ → Prop)
    (keeps : ∀ step s, allowed step → inv s → inv (s.step engine observers step).2)
    {p : Program α} (h : p.Asks allowed) {s : Session σ} (start : inv s) :
    inv (run engine observers p s).2 := by
  -- What the allowed steps preserve, the program preserves.
  induction p generalizing s with
  | done a => exact start
  | ask step next ih => exact ih _ (h.2 _) (keeps step s h.1 start)

def perform (engine : Engine σ) (observers : List Observer) (action : Action α) (s : Session σ) :
    Except Failure α × Session σ :=
  run engine observers action.run s

theorem exists_perform_eq {action : Action α} {s : Session σ} {out : Except Failure α}
    (h : (perform engine observers action s).1 = out) :
    ∃ t, perform engine observers action s = (out, t) :=
  ⟨_, Prod.ext h rfl⟩

@[simp] theorem perform_pure (a : α) (s : Session σ) :
    perform engine observers (pure a) s = (.ok a, s) := rfl

theorem perform_bind (a : Action α) (f : α → Action β) (s : Session σ) :
    perform engine observers (a >>= f) s =
      match perform engine observers a s with
      | (.ok x, t) => perform engine observers (f x) t
      | (.error failure, t) => (.error failure, t) := by
  unfold perform
  rw [ExceptT.run_bind, run_bind]
  cases run engine observers a.run s with
  | mk result t => cases result <;> rfl

theorem perform_bind_ok {a : Action α} {f : α → Action β} {s t : Session σ} {x : α}
    (h : perform engine observers a s = (.ok x, t)) :
    perform engine observers (a >>= f) s = perform engine observers (f x) t := by
  rw [perform_bind, h]

theorem perform_bind_error {a : Action α} {f : α → Action β} {s t : Session σ} {failure : Failure}
    (h : perform engine observers a s = (.error failure, t)) :
    perform engine observers (a >>= f) s = (.error failure, t) := by
  rw [perform_bind, h]

theorem exists_of_perform_bind {a : Action α} {f : α → Action β} {s u : Session σ} {y : β}
    (h : perform engine observers (a >>= f) s = (.ok y, u)) :
    ∃ x t, perform engine observers a s = (.ok x, t) ∧
      perform engine observers (f x) t = (.ok y, u) := by
  cases result : perform engine observers a s with
  | mk outcome t =>
    cases outcome with
    | error failure =>
      rw [perform_bind_error result] at h
      cases h
    | ok x =>
      rw [perform_bind_ok result] at h
      exact ⟨x, t, rfl, h⟩

@[simp] theorem perform_ledgerKnown (s : Session σ) :
    perform engine observers Action.ledgerKnown s = (.ok s.ledgerKnown, s) := rfl

@[simp] theorem perform_rememberLedger (s : Session σ) :
    perform engine observers Action.rememberLedger s = (.ok (), { s with ledgerKnown := true }) := rfl

theorem perform_execute (sql : String) (params : List Value) (statement : Option Statement)
    (s : Session σ) : perform engine observers (Action.execute sql params statement) s =
      (Action.engineResult (s.execute engine observers ⟨sql, params, statement⟩).1,
        (s.execute engine observers ⟨sql, params, statement⟩).2) := rfl

theorem perform_orNotFound (a : Action α) (default : α) (s : Session σ) :
    perform engine observers (Action.orNotFound a default) s =
      match perform engine observers a s with
      | (.error (.engine e), t) => (if e.isNotFound then .ok default else .error (.engine e), t)
      | out => out := by
  unfold perform
  rw [Action.orNotFound, ExceptT.run_tryCatch, run_bind]
  rcases run engine observers a.run s with ⟨result, t⟩
  cases result with
  | ok x => rfl
  | error failure =>
    cases failure with
    | engine e =>
      show run engine observers (ExceptT.run (if e.isNotFound then _ else _)) t =
        (if e.isNotFound then _ else _, t)
      split
      next => rfl
      next => rfl
    | request | record | query | state => rfl

theorem perform_orNotFound_ok {a : Action α} {default x : α} {s t : Session σ}
    (h : perform engine observers a s = (.ok x, t)) :
    perform engine observers (Action.orNotFound a default) s = (.ok x, t) := by
  rw [perform_orNotFound, h]

theorem execute_engine (e : Execution) (s : Session σ) :
    (s.execute engine observers e).2.engine = (engine.execute e.sql e.params s.engine).2 := by
  unfold execute
  rcases engine.execute e.sql e.params s.engine with ⟨reply, state⟩
  cases reply <;> rfl

theorem execute_ledgerKnown (e : Execution) (s : Session σ) :
    (s.execute engine observers e).2.ledgerKnown = s.ledgerKnown := by
  unfold execute
  rcases engine.execute e.sql e.params s.engine with ⟨reply, state⟩
  cases reply <;> rfl

theorem filterMap_observe {γ : Type} {f : Event → Option γ}
    (silent : ∀ o e rows, f (.executed o e rows) = none) (e : Execution) (rows : List Row) :
    (observe e observers rows).1.filterMap f = [] := by
  induction observers generalizing rows with
  | nil => rfl
  | cons o rest ih =>
    rw [observe, List.filterMap_cons, silent]
    exact ih _

theorem exists_log_execute (engine : Engine σ) (observers : List Observer) (e : Execution)
    (s : Session σ) :
    ∃ events, (s.execute engine observers e).2.log = s.log ++ events ∧
      ∀ {γ : Type} (f : Event → Option γ), (∀ o e, f (.executing o e) = none) →
        (∀ o e rows, f (.executed o e rows) = none) →
        events.filterMap f = (f (.statement e.sql e.params)).toList := by
  have before {γ : Type} (f : Event → Option γ) (quiet : ∀ o e, f (.executing o e) = none) :
      (observers.map fun o => Event.executing o.name e).filterMap f = [] := by
    simp [quiet]
  unfold execute
  rcases engine.execute e.sql e.params s.engine with ⟨reply, state⟩
  cases reply with
  | error failure =>
    refine ⟨_, rfl, fun f quiet silent => ?_⟩
    rw [List.filterMap_append, before f quiet]
    cases h : f (.statement e.sql e.params) <;> simp [h]
  | ok rows =>
    refine ⟨_, rfl, fun f quiet silent => ?_⟩
    rw [List.filterMap_append, before f quiet, List.nil_append]
    cases h : f (.statement e.sql e.params) <;> simp [h, filterMap_observe silent]

theorem statements_execute (e : Execution) (s : Session σ) :
    (s.execute engine observers e).2.statements = s.statements ++ [e.sql] := by
  obtain ⟨events, grown, only⟩ := exists_log_execute engine observers e s
  rw [statements, grown, List.filterMap_append, only Event.sql? (fun _ _ => rfl) fun _ _ _ => rfl]
  rfl

end Session

/-- Leaves the rows of statements that no statement tree is known for. -/
def Observer.IsPassive (o : Observer) : Prop :=
  ∀ e rows, e.statement = none → o.revise e rows = rows

theorem Session.execute_fst_of_isPassive {σ : Type} {engine : Engine σ} {observers : List Observer}
    (passive : ∀ o ∈ observers, o.IsPassive) {e : Execution} (plain : e.statement = none)
    (s : Session σ) :
    (s.execute engine observers e).1 = (engine.execute e.sql e.params s.engine).1 := by
  -- A passive observer sees no statement tree and hands the rows on.
  have same (rows : List Row) : (observe e observers rows).2 = rows := by
    rw [observe_snd]
    induction observers with
    | nil => rfl
    | cons o rest ih =>
      rw [List.foldl_cons, passive o List.mem_cons_self e rows plain]
      exact ih fun p member => passive p (List.mem_cons_of_mem o member)
  unfold execute
  rcases engine.execute e.sql e.params s.engine with ⟨reply, state⟩
  cases reply with
  | error failure => rfl
  | ok rows => simp [same]

theorem Session.perform_execute_plain {σ : Type} (engine : Engine σ) {observers : List Observer}
    (passive : ∀ o ∈ observers, o.IsPassive) (sql : String) (params : List Value) (s : Session σ) :
    ∃ t, perform engine observers (Action.execute sql params none) s =
        (Action.engineResult (engine.execute sql params s.engine).1, t) ∧
      t.engine = (engine.execute sql params s.engine).2 ∧
      t.statements = s.statements ++ [sql] ∧ t.ledgerKnown = s.ledgerKnown := by
  -- The engine's reply comes back unchanged, and the session has one more statement.
  refine ⟨(s.execute engine observers ⟨sql, params, none⟩).2, ?_, execute_engine _ s,
    statements_execute _ s, execute_ledgerKnown _ s⟩
  rw [perform_execute, execute_fst_of_isPassive passive rfl]

/-- Performed from here, the action sends these statements and comes to this outcome. -/
structure Session.Sends {σ α : Type} (engine : Engine σ) (observers : List Observer)
    (action : Action α) (s : Session σ) (sent : List String) (out : Except Failure α)
    (t : Session σ) : Prop where
  performs : perform engine observers action s = (out, t)
  statements : t.statements = s.statements ++ sent

namespace Session.Sends

variable {σ α β : Type} {engine : Engine σ} {observers : List Observer} {s t u : Session σ}
  {sent later : List String}

theorem rememberLedger (s : Session σ) : Sends engine observers Action.rememberLedger s [] (.ok ())
    { s with ledgerKnown := true } :=
  ⟨rfl, (List.append_nil _).symm⟩

theorem bind {a : Action α} {f : α → Action β} {x : α} {out : Except Failure β}
    (first : Sends engine observers a s sent (.ok x) t)
    (next : Sends engine observers (f x) t later out u) :
    Sends engine observers (a >>= f) s (sent ++ later) out u := by
  refine ⟨(perform_bind_ok first.performs).trans next.performs, ?_⟩
  rw [next.statements, first.statements, List.append_assoc]

theorem bind_done {a : Action α} {f : α → Action β} {x : α} {out : Except Failure β}
    (first : Sends engine observers a s sent (.ok x) t)
    (done : perform engine observers (f x) t = (out, t)) :
    Sends engine observers (a >>= f) s sent out t :=
  ⟨(perform_bind_ok first.performs).trans done, first.statements⟩

theorem bind_error {a : Action α} {f : α → Action β} {failure : Failure}
    (first : Sends engine observers a s sent (.error failure) t) :
    Sends engine observers (a >>= f) s sent (.error failure) t :=
  ⟨perform_bind_error first.performs, first.statements⟩

theorem orNotFound {a : Action α} {default x : α}
    (h : Sends engine observers a s sent (.ok x) t) :
    Sends engine observers (Action.orNotFound a default) s sent (.ok x) t :=
  ⟨perform_orNotFound_ok h.performs, h.statements⟩

theorem execute (passive : ∀ o ∈ observers, o.IsPassive) {sql : String} {params : List Value}
    {reply : Except EngineError (List Row)} {x : σ}
    (replies : engine.execute sql params s.engine = (reply, x)) :
    ∃ t, Sends engine observers (Action.execute sql params none) s [sql]
        (Action.engineResult reply) t ∧ t.engine = x ∧ t.ledgerKnown = s.ledgerKnown := by
  obtain ⟨t, performed, reached, sent, known⟩ := perform_execute_plain engine passive sql params s
  rw [replies] at performed reached
  exact ⟨t, ⟨performed, sent⟩, reached, known⟩

theorem perform (passive : ∀ o ∈ observers, o.IsPassive) {sql : String}
    {reply : Except EngineError (List Row)} {x : σ}
    (replies : engine.execute sql [] s.engine = (reply, x)) :
    ∃ t, Sends engine observers (Action.perform sql) s [sql]
        (Action.engineResult (reply.map fun _ => ())) t ∧ t.engine = x ∧
      t.ledgerKnown = s.ledgerKnown := by
  obtain ⟨t, sent, reached, known⟩ := execute passive replies
  refine ⟨t, ?_, reached, known⟩
  cases reply with
  | error e => exact sent.bind_error
  | ok rows => exact sent.bind_done rfl

end Session.Sends

end OracleSql
