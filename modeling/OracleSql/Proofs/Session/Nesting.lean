import OracleSql.Proofs.Session.Operation

set_option autoImplicit false

namespace OracleSql

namespace Session

variable {σ : Type}

def hooks (s : Session σ) : List Hook :=
  s.log.filterMap Event.hook?

def hooked (s : Session σ) (h : Hook) (x : σ) : Session σ :=
  { s with engine := x, log := s.log ++ [.hook h] }

structure Calls (called : List Hook) (s t : Session σ) : Prop where
  hooks_eq : t.hooks = s.hooks ++ called
  open_eq : t.inTransaction = s.inTransaction

namespace Calls

variable {s t u : Session σ} {first second : List Hook}

theorem refl (s : Session σ) : Calls [] s s :=
  ⟨(List.append_nil _).symm, rfl⟩

theorem trans (h : Calls first s t) (k : Calls second t u) : Calls (first ++ second) s u :=
  ⟨by rw [k.hooks_eq, h.hooks_eq, List.append_assoc], k.open_eq.trans h.open_eq⟩

theorem of_continues (h : Continues s t) : Calls [] s t := by
  obtain ⟨⟨events, grown, none⟩, same⟩ := h
  exact ⟨by rw [hooks, grown, List.filterMap_append, none, hooks], same⟩

theorem hooked (s : Session σ) (h : Hook) (x : σ) : Calls [h] s (s.hooked h x) :=
  ⟨by simp [hooks, Session.hooked, Event.hook?], rfl⟩

end Calls

end Session

open Session

variable {σ α : Type} (engine : Engine σ) (observers : List Observer)

/-- The hook that ends the creation of a view; none if it could not begin. -/
def View.ending? (view : ObjectName) (select : String) (s : Session σ) : Option Hook :=
  match engine.hook .begin s.engine with
  | (.error _, _) => none
  | (.ok (), x) =>
      some (hookAfter (perform engine observers (View.replace view select) (s.hooked .begin x)).1)

def creationHooks : Option Hook → List Hook
  | none => [.begin]
  | some ending => [.begin, ending]

variable {engine observers}

namespace View

variable {settings : Settings} {view : ObjectName} {query : Query} {select : String}
  {s t : Session σ} {x y : σ}

theorem perform_create_of_error {e : QueryError} (unwritten : query.render settings = .error e)
    (s : Session σ) :
    perform engine observers (create settings view query) s = (.error (.query e), s) := by
  rw [create, unwritten]
  rfl

theorem perform_create (written : query.render settings = .ok select) (s : Session σ) :
    perform engine observers (create settings view query) s =
      perform engine observers
        (Action.hook .begin >>= fun _ => (replace view select).attempt >>= fun result =>
          match result with
          | .ok () => Action.hook .commit
          | .error failure => Action.hook .rollback >>= fun _ => throw failure) s := by
  rw [create, written]
  rfl

theorem perform_create_of_refused (written : query.render settings = .ok select) {e : EngineError}
    (refused : engine.hook .begin s.engine = (.error e, x)) :
    perform engine observers (create settings view query) s =
      (.error (.engine e), s.hooked .begin x) := by
  rw [perform_create written, perform_bind, perform_hook, refused]
  rfl

-- A refused rollback is what the caller learns of a replacement that failed.
theorem perform_create_begun (written : query.render settings = .ok select)
    (begins : engine.hook .begin s.engine = (.ok (), x)) {result : Except Failure Unit}
    (replaced : perform engine observers (replace view select) (s.hooked .begin x) = (result, t))
    {reply : Except EngineError Unit} (ends : engine.hook (hookAfter result) t.engine = (reply, y)) :
    perform engine observers (create settings view query) s =
      (Action.engineResult reply >>= fun _ => result, t.hooked (hookAfter result) y) := by
  rw [perform_create written, perform_bind, perform_hook, begins]
  show perform engine observers ((replace view select).attempt >>= _) (s.hooked .begin x) = _
  rw [perform_bind, perform_attempt, replaced]
  cases result with
  | ok =>
    show perform engine observers (Action.hook .commit) t = _
    rw [hookAfter] at ends
    rw [perform_hook, ends]
    cases reply <;> rfl
  | error failure =>
    show perform engine observers (Action.hook .rollback >>= _) t = _
    rw [hookAfter] at ends
    rw [perform_bind, perform_hook, ends]
    cases reply <;> rfl

theorem calls_create (written : query.render settings = .ok select) (s : Session σ) :
    Calls (creationHooks (ending? engine observers view select s)) s
      (perform engine observers (create settings view query) s).2 := by
  unfold ending?
  rcases begins : engine.hook .begin s.engine with ⟨_ | _, x⟩
  next e =>
    rw [perform_create_of_refused written begins]
    exact .hooked s .begin x
  next =>
    rcases replaced : perform engine observers (replace view select) (s.hooked .begin x) with
      ⟨result, t⟩
    rcases ends : engine.hook (hookAfter result) t.engine with ⟨reply, y⟩
    rw [perform_create_begun written begins replaced ends]
    -- Between the two hooks the view is replaced, without any hook.
    have work := Calls.of_continues
      (continues_of_asks engine observers (asks_replace view select).quiet (s.hooked .begin x))
    show Calls [.begin, hookAfter (perform engine observers (replace view select) _).1] s _
    rw [replaced] at work ⊢
    exact ((Calls.hooked s .begin x).trans work).trans (.hooked t (hookAfter result) y)

end View

variable (engine observers)

/-- How the creations of views that have a text came to their ends, in the order of the run. -/
def Operation.creations (options : Options) : Operation α → Session σ → List (Option Hook)
  | .createView view query offset, s =>
      match query.render (options.settings offset) with
      | .ok select =>
          [View.ending? engine observers (ObjectName.resolve view options.schema) select s]
      | .error _ => []
  | _, _ => []

def Routine.creations (options : Options) {α : Type} : Routine α → Session σ → List (Option Hook)
  | .done _, _ => []
  | .operation op, s => op.creations engine observers options s
  | .andThen first next, s =>
      first.creations options s ++
        match perform engine observers (first.action options) s with
        | (.ok a, t) => (next a).creations options t
        | (.error _, _) => []
  | .attempt inner, s => inner.creations options s
  | .nested inner, s => inner.creations options s

variable {engine observers}

theorem Operation.creations_eq_nil (options : Options) {op : Operation α}
    (other : op.createsView = false) (s : Session σ) :
    op.creations engine observers options s = [] := by
  cases op with
  | createView => cases other
  | _ => rfl

theorem Operation.calls (options : Options) (op : Operation α) (s : Session σ) :
    Calls ((op.creations engine observers options s).flatMap creationHooks) s
      (perform engine observers (op.action options) s).2 := by
  cases other : op.createsView with
  | false =>
    rw [op.creations_eq_nil options other]
    exact .of_continues (continues_of_asks engine observers (asks_action options other) s)
  | true =>
    cases op with
    | createView view query offset =>
      simp only [creations, action]
      cases written : query.render (options.settings offset) with
      | error e =>
        rw [View.perform_create_of_error written]
        exact .refl s
      | ok select => simpa using View.calls_create written s
    | _ => cases other

theorem Routine.calls (options : Options) (r : Routine α) {s : Session σ}
    (isOpen : s.inTransaction = true) :
    Calls ((r.creations engine observers options s).flatMap creationHooks) s
      (perform engine observers (r.action options) s).2 := by
  induction r generalizing s with
  | done result => exact .refl s
  | operation op => exact op.calls options s
  | andThen first next ihFirst ihNext =>
    have before := ihFirst isOpen
    simp only [creations, action]
    rw [perform_bind, List.flatMap_append]
    rcases result : perform engine observers (first.action options) s with ⟨_ | a, t⟩
    all_goals rw [result] at before
    next failure => simpa using before
    next => exact before.trans (ihNext a (before.open_eq.trans isOpen))
  | attempt inner ih =>
    simp only [creations, action]
    rw [perform_attempt]
    exact ih isOpen
  | nested inner ih =>
    simp only [creations, action]
    rw [perform_transaction_of_open _ isOpen]
    exact ih isOpen

theorem Routine.creations_eq_nil (options : Options) {r : Routine α} (none : r.CreatesNoView)
    (s : Session σ) : r.creations engine observers options s = [] := by
  induction r generalizing s with
  | done result => rfl
  | operation op => exact op.creations_eq_nil options none s
  | andThen first next ihFirst ihNext =>
    simp only [creations]
    rw [ihFirst none.1]
    rcases perform engine observers (first.action options) s with ⟨_ | a, t⟩
    next => rfl
    next => exact ihNext a (none.2 a) t
  | attempt inner ih => exact ih none s
  | nested inner ih => exact ih none s

theorem creationHooks_ne_nil (ending : Option Hook) : creationHooks ending ≠ [] := by
  cases ending <;> simp [creationHooks]

theorem flatMap_creationHooks_eq_nil_iff (endings : List (Option Hook)) :
    endings.flatMap creationHooks = [] ↔ endings = [] := by
  cases endings with
  | nil => simp
  | cons ending rest => simp [creationHooks_ne_nil]

variable (engine observers) in
/-- Between the begin of an outermost transaction and its end the hooks are called for the views
that are created, and only for them. -/
theorem Routine.hooks_between (options : Options) (r : Routine α) {s : Session σ} {x : σ}
    (outermost : s.inTransaction = false) (begins : engine.hook .begin s.engine = (.ok (), x)) :
    ∃ between ending,
      (perform engine observers (transaction (r.action options)) s).2.hooks =
        s.hooks ++ .begin :: (between ++ [ending]) ∧
      ending = hookAfter (perform engine observers (r.action options) (s.begun x)).1 ∧
      between = (r.creations engine observers options (s.begun x)).flatMap creationHooks ∧
      (between = [] ↔ r.creations engine observers options (s.begun x) = []) ∧
      (r.CreatesNoView → between = []) := by
  have called : Calls _ (s.begun x) (perform engine observers (r.action options) _).2 :=
    r.calls options rfl
  rcases worked : perform engine observers (r.action options) (s.begun x) with ⟨result, t⟩
  rcases ends : engine.hook (hookAfter result) t.engine with ⟨reply, y⟩
  rw [worked] at called
  refine ⟨_, hookAfter result, ?_, rfl, rfl, flatMap_creationHooks_eq_nil_iff _, ?_⟩
  next =>
    have start : (s.begun x).hooks = s.hooks ++ [.begin] := by simp [hooks, begun, Event.hook?]
    have last : (t.ended y (hookAfter result)).hooks = t.hooks ++ [hookAfter result] := by
      simp [hooks, ended, Event.hook?]
    rw [perform_transaction_begun outermost begins worked ends, last, called.hooks_eq, start]
    simp
  next =>
    intro none
    rw [r.creations_eq_nil options none]
    rfl

def publishing : Routine Unit :=
  .andThen (.operation (.execute "DELETE FROM \"t\"" [])) fun _ =>
    .operation (.createView "V" (Query.constant.selecting [⟨.value (.int 1), some "n"⟩]) 0)

def unpublished : Script :=
  { Script.empty with replies := [.ok [], .ok [[("count", .int 0)]], .ok []] }

theorem hooks_between_publishing :
    (start unpublished).inTransaction = false ∧
      Script.engine.hook .begin unpublished = (.ok (), unpublished) ∧
      (perform Script.engine [] (transaction (publishing.action .empty)) (start unpublished)).2.hooks =
        [.begin, .begin, .commit, .commit] := by
  obtain ⟨between, ending, all, rfl, rfl, _⟩ :=
    Routine.hooks_between Script.engine [] .empty publishing
      (rfl : (start unpublished).inTransaction = false) rfl
  exact ⟨rfl, rfl, all.trans (by rfl)⟩

theorem commit_within_transaction :
    ¬ ∀ (r : Routine Unit) (s : Session Script), s.inTransaction = false →
      ∃ ending, (perform Script.engine [] (transaction (r.action .empty)) s).2.hooks =
        s.hooks ++ [.begin, ending] := by
  intro brackets
  obtain ⟨ending, only⟩ := brackets publishing (start unpublished) rfl
  have within : (perform Script.engine [] (transaction (publishing.action .empty))
      (start unpublished)).2.hooks = [.begin, .begin, .commit, .commit] := by rfl
  rw [within] at only
  simp [Session.hooks, start] at only

end OracleSql
