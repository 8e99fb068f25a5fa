import OracleSql.Proofs.Session.Operation

set_option autoImplicit false

namespace OracleSql

def Execution.left (e : Execution) (observers : List Observer) (rows : List Row) : List Row :=
  observers.foldl (fun rows o => o.revise e rows) rows

/-- Each observer is given the rows that those before it have left. -/
def Execution.notices (e : Execution) (observers : List Observer) (rows : List Row) : List Event :=
  observers.mapIdx fun i o => .executed o.name e (o.revise e (e.left (observers.take i) rows))

/-- What reaches the connection: a hook, or a statement with the engine's own reply. -/
inductive Occurrence where
  | hook (h : Hook)
  | execution (e : Execution) (reply : Except EngineError (List Row))

namespace Occurrence

def events (observers : List Observer) : Occurrence → List Event
  | .hook h => [.hook h]
  | .execution e reply =>
      observers.map (fun o => .executing o.name e) ++ .statement e.sql e.params ::
        match reply with
        | .error _ => []
        | .ok rows => e.notices observers rows

def Shows (tree : Option Statement) : Occurrence → Prop
  | .hook _ => True
  | .execution e _ => e.statement = tree

end Occurrence

namespace Session

variable {σ α β : Type} {engine : Engine σ} {observers : List Observer}

theorem observe_fst (e : Execution) (observers : List Observer) (rows : List Row) :
    (observe e observers rows).1 = e.notices observers rows := by
  induction observers generalizing rows with
  | nil => rfl
  | cons o rest ih =>
    rw [observe, Execution.notices, List.mapIdx_cons]
    exact congrArg _ (ih _)

theorem execute_fst (e : Execution) (s : Session σ) :
    (s.execute engine observers e).1 =
      (engine.execute e.sql e.params s.engine).1.map (e.left observers) := by
  unfold execute
  rcases engine.execute e.sql e.params s.engine with ⟨reply, state⟩
  cases reply with
  | error error => rfl
  | ok rows => exact congrArg Except.ok (observe_snd e observers rows)

def occurrencesOf (engine : Engine σ) : Step → Session σ → List Occurrence
  | .execute sql params statement, s =>
      [.execution ⟨sql, params, statement⟩ (engine.execute sql params s.engine).1]
  | .hook h, _ => [.hook h]
  | _, _ => []

def occurrences (engine : Engine σ) (observers : List Observer) :
    Program α → Session σ → List Occurrence
  | .done _, _ => []
  | .ask asked next, s =>
      occurrencesOf engine asked s ++
        occurrences engine observers (next (s.step engine observers asked).1)
          (s.step engine observers asked).2

theorem log_execute (e : Execution) (s : Session σ) :
    (s.execute engine observers e).2.log = s.log ++
      (Occurrence.execution e (engine.execute e.sql e.params s.engine).1).events observers := by
  unfold execute
  rcases engine.execute e.sql e.params s.engine with ⟨reply, state⟩
  cases reply with
  | error error => rfl
  | ok rows =>
    show s.log ++ (_ ++ .statement e.sql e.params :: (observe e observers rows).1) = _
    rw [observe_fst]
    rfl

theorem log_step (asked : Step) (s : Session σ) :
    (s.step engine observers asked).2.log =
      s.log ++ (occurrencesOf engine asked s).flatMap (Occurrence.events observers) := by
  cases asked with
  | execute sql params statement =>
    show (s.execute engine observers ⟨sql, params, statement⟩).2.log = _
    rw [log_execute, occurrencesOf, List.flatMap_singleton]
  | hook h => rfl
  | enterTransaction | leaveTransaction | ledgerKnown | rememberLedger =>
    exact (List.append_nil _).symm

theorem log_run (p : Program α) (s : Session σ) :
    (run engine observers p s).2.log =
      s.log ++ (occurrences engine observers p s).flatMap (Occurrence.events observers) := by
  induction p generalizing s with
  | done a => exact (List.append_nil _).symm
  | ask asked next ih =>
    rw [run, occurrences, ih, log_step, List.flatMap_append, List.append_assoc]

theorem shows_of_asks (engine : Engine σ) (observers : List Observer) {tree : Option Statement}
    {allowed : Step → Prop}
    (only : ∀ sql params statement, allowed (.execute sql params statement) → statement = tree)
    {p : Program α} (h : p.Asks allowed) (s : Session σ) :
    ∀ occurrence ∈ occurrences engine observers p s, occurrence.Shows tree := by
  induction p generalizing s with
  | done a => exact List.forall_mem_nil _
  | ask asked next ih =>
    rw [occurrences, List.forall_mem_append]
    refine ⟨?_, ih _ (h.2 _) _⟩
    cases asked with
    | execute sql params statement => exact List.forall_mem_singleton.2 (only _ _ _ h.1)
    | hook => exact List.forall_mem_singleton.2 trivial
    | enterTransaction | leaveTransaction | ledgerKnown | rememberLedger =>
      exact List.forall_mem_nil _

end Session

open Session

def IsShowing (tree : Option Statement) : Step → Prop
  | .execute _ _ statement => statement = tree
  | _ => True

theorem IsBare.isShowing {step : Step} (h : IsBare step) : IsShowing none step := by
  cases step with
  | execute => exact h
  | _ => trivial

theorem Action.Asks.hook {allowed : Step → Prop} {h : Hook} (may : allowed (.hook h)) :
    Asks allowed (Action.hook h) :=
  ⟨may, fun _ => trivial⟩

theorem View.asks_create (settings : Settings) (view : ObjectName) (query : Query) :
    (View.create settings view query).Asks (IsShowing none) := by
  have replaces (select : String) : (View.replace view select).Asks (IsShowing none) :=
    Program.Asks.mono (asks_replace view select) fun _ => IsBare.isShowing
  refine .bind (.ofChecked _) fun select => .bind (.hook trivial) fun _ => ?_
  refine .bind (.attempt (replaces select)) fun result => ?_
  cases result with
  | ok => exact .hook trivial
  | error failure => exact .bind (.hook trivial) fun _ => .throw failure

theorem Operation.asks_showing (options : Options) {α : Type} (op : Operation α) :
    (op.action options).Asks (IsShowing op.tree) := by
  cases treeless : op.tree with
  | some statement =>
    cases op with
    | executeStatement => cases treeless; exact .bind (.ofChecked _) fun _ => .execute rfl
    | _ => cases treeless
  | none =>
    cases other : op.createsView with
    | false =>
      exact Program.Asks.mono (op.asks_bare options other treeless) fun _ => IsBare.isShowing
    | true =>
      cases op with
      | createView view query offset => exact View.asks_create _ _ _
      | _ => cases other

inductive Happening : Type 1 where
  | hook (h : Hook)
  | operation {α : Type} (op : Operation α) (occurrences : List Occurrence)

namespace Happening

def occurrences : Happening → List Occurrence
  | .hook h => [.hook h]
  | .operation _ occurrences => occurrences

def events (observers : List Observer) (happening : Happening) : List Event :=
  happening.occurrences.flatMap (Occurrence.events observers)

def ShowsTree : Happening → Prop
  | .hook _ => True
  | .operation op occurrences => ∀ occurrence ∈ occurrences, occurrence.Shows op.tree

end Happening

section Routines

variable {σ : Type} (engine : Engine σ) (observers : List Observer) (options : Options)

def Routine.happenings {α : Type} : Routine α → Session σ → List Happening
  | .done _, _ => []
  | .operation op, s =>
      [.operation op (Session.occurrences engine observers (op.action options).run s)]
  | .andThen first next, s =>
      first.happenings s ++
        match perform engine observers (first.action options) s with
        | (.ok a, t) => (next a).happenings t
        | (.error _, _) => []
  | .attempt inner, s => inner.happenings s
  | .nested inner, s =>
      if s.inTransaction then inner.happenings s
      else
        .hook .begin ::
          match engine.hook .begin s.engine with
          | (.error _, _) => []
          | (.ok (), x) =>
              inner.happenings (s.begun x) ++
                [.hook (hookAfter (perform engine observers (inner.action options) (s.begun x)).1)]

variable {engine observers options}

theorem Routine.log_perform {α : Type} (r : Routine α) (s : Session σ) :
    (perform engine observers (r.action options) s).2.log = s.log ++
      (r.happenings engine observers options s).flatMap (Happening.events observers) := by
  induction r generalizing s with
  | done result => exact (List.append_nil _).symm
  | operation op =>
    rw [happenings, List.flatMap_singleton]
    exact log_run _ s
  | andThen first next ihFirst ihNext =>
    -- What follows starts in the session that the first part has left.
    have before := ihFirst s
    simp only [happenings, action]
    rw [perform_bind, List.flatMap_append]
    rcases result : perform engine observers (first.action options) s with ⟨_ | a, t⟩
    all_goals rw [result] at before
    next failure => simpa using before
    next => rw [ihNext a t, before, List.append_assoc]
  | attempt inner ih =>
    simp only [happenings, action]
    rw [perform_attempt]
    exact ih s
  | nested inner ih =>
    simp only [happenings, action]
    cases isOpen : s.inTransaction with
    | true =>
      rw [perform_transaction_of_open _ isOpen, if_pos rfl]
      exact ih s
    | false =>
      rw [if_neg Bool.false_ne_true]
      rcases begins : engine.hook .begin s.engine with ⟨_ | _, x⟩
      next e =>
        rw [perform_transaction_refused isOpen begins]
        rfl
      next =>
        rcases worked : perform engine observers (inner.action options) (s.begun x) with ⟨result, t⟩
        rcases ends : engine.hook (hookAfter result) t.engine with ⟨reply, y⟩
        have within := ih (s.begun x)
        rw [worked] at within
        rw [perform_transaction_begun isOpen begins worked ends]
        show t.log ++ [.hook (hookAfter result)] = _
        rw [within, show (s.begun x).log = s.log ++ [.hook .begin] from rfl]
        simp [worked, Happening.events, Happening.occurrences, Occurrence.events]

theorem Routine.showsTree {α : Type} (r : Routine α) (s : Session σ) :
    ∀ happening ∈ r.happenings engine observers options s, happening.ShowsTree := by
  induction r generalizing s with
  | done result => exact List.forall_mem_nil _
  | operation op =>
    have shown := shows_of_asks engine observers (fun _ _ _ h => h) (op.asks_showing options) s
    exact List.forall_mem_singleton.2 shown
  | andThen first next ihFirst ihNext =>
    rw [happenings, List.forall_mem_append]
    refine ⟨ihFirst s, ?_⟩
    rcases perform engine observers (first.action options) s with ⟨_ | a, t⟩
    next => exact List.forall_mem_nil _
    next => exact ihNext a t
  | attempt inner ih => exact ih s
  | nested inner ih =>
    rw [happenings]
    split
    next => exact ih s
    next =>
      refine List.forall_mem_cons.2 ⟨trivial, ?_⟩
      rcases engine.hook .begin s.engine with ⟨_ | _, x⟩
      next => exact List.forall_mem_nil _
      next => exact List.forall_mem_append.2 ⟨ih _, List.forall_mem_singleton.2 trivial⟩

end Routines

/-- Whatever operations a routine is made of, its log consists of hooks and of statements that are
announced to each observer in turn, and reported to each if they succeed. Only the statement of a
query is shown with its statement tree, and what a statement gives is what the last observer left. -/
theorem Routine.notifies {σ α : Type} (engine : Engine σ) (observers : List Observer)
    (options : Options) (r : Routine α) (s : Session σ) :
    (perform engine observers (r.action options) s).2.log = s.log ++
        (r.happenings engine observers options s).flatMap (Happening.events observers) ∧
      (∀ happening ∈ r.happenings engine observers options s, happening.ShowsTree) ∧
      ∀ sql params statement (t : Session σ),
        (perform engine observers (Action.execute sql params statement) t).1 =
          Action.engineResult ((engine.execute sql params t.engine).1.map
            (Execution.left ⟨sql, params, statement⟩ observers)) := by
  refine ⟨r.log_perform s, r.showsTree s, fun sql params statement t => ?_⟩
  rw [perform_execute, execute_fst]

end OracleSql
