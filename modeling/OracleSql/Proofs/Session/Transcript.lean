import OracleSql.Proofs.Session.Perform

set_option autoImplicit false

namespace OracleSql

structure Exchange where
  sql : String
  params : List Value
  reply : Except EngineError (List Row)

namespace Exchange

def statement (e : Exchange) : String × List Value :=
  (e.sql, e.params)

def succeeds (e : Exchange) : Bool :=
  match e.reply with
  | .ok _ => true
  | .error _ => false

def missesObject (e : Exchange) : Bool :=
  match e.reply with
  | .ok _ => false
  | .error error => error.isNotFound

end Exchange

def Event.statement? : Event → Option (String × List Value)
  | .statement sql params => some (sql, params)
  | _ => none

namespace Session

variable {σ α β : Type} {engine : Engine σ} {observers : List Observer} {s t : Session σ}

def exchangeOf (engine : Engine σ) (observers : List Observer) : Step → Session σ → List Exchange
  | .execute sql params statement, s =>
      [⟨sql, params, (s.execute engine observers ⟨sql, params, statement⟩).1⟩]
  | _, _ => []

def transcript (engine : Engine σ) (observers : List Observer) :
    Program α → Session σ → List Exchange
  | .done _, _ => []
  | .ask asked next, s =>
      exchangeOf engine observers asked s ++
        transcript engine observers (next (s.step engine observers asked).1)
          (s.step engine observers asked).2

theorem transcript_bind (p : Program α) (f : α → Program β) (s : Session σ) :
    transcript engine observers (p >>= f) s =
      transcript engine observers p s ++
        transcript engine observers (f (run engine observers p s).1)
          (run engine observers p s).2 := by
  induction p generalizing s with
  | done a => rfl
  | ask asked next ih =>
    rw [Program.ask_bind, transcript, transcript, ih, List.append_assoc]
    rfl

theorem statements_step (asked : Step) (s : Session σ) :
    (s.step engine observers asked).2.log.filterMap Event.statement? =
      s.log.filterMap Event.statement? ++
        (exchangeOf engine observers asked s).map Exchange.statement := by
  cases asked with
  | execute sql params statement =>
    obtain ⟨events, grown, only⟩ := exists_log_execute engine observers
      ⟨sql, params, statement⟩ s
    show (s.execute engine observers ⟨sql, params, statement⟩).2.log.filterMap _ = _
    rw [grown, List.filterMap_append, only Event.statement? (fun _ _ => rfl) fun _ _ _ => rfl]
    rfl
  | hook h =>
    show (s.log ++ [Event.hook h]).filterMap _ = _
    rw [List.filterMap_append]
    rfl
  | enterTransaction | leaveTransaction | ledgerKnown | rememberLedger =>
    exact (List.append_nil _).symm

theorem statements_run (p : Program α) (s : Session σ) :
    (run engine observers p s).2.log.filterMap Event.statement? =
      s.log.filterMap Event.statement? ++
        (transcript engine observers p s).map Exchange.statement := by
  induction p generalizing s with
  | done a => exact (List.append_nil _).symm
  | ask asked next ih =>
    rw [run, transcript, ih, statements_step, List.map_append, List.append_assoc]

theorem known_step (asked : Step) (known : s.ledgerKnown = true) :
    (s.step engine observers asked).2.ledgerKnown = true := by
  cases asked with
  | execute sql params statement => exact (execute_ledgerKnown ⟨sql, params, statement⟩ s).trans known
  | hook | enterTransaction | leaveTransaction | ledgerKnown => exact known
  | rememberLedger => rfl

theorem known_run (p : Program α) (known : s.ledgerKnown = true) :
    (run engine observers p s).2.ledgerKnown = true := by
  induction p generalizing s with
  | done a => exact known
  | ask asked next ih => exact ih _ (known_step asked known)

def exchanges (engine : Engine σ) (observers : List Observer) (action : Action α)
    (s : Session σ) : List Exchange :=
  transcript engine observers action.run s

theorem statements_perform (action : Action α) (s : Session σ) :
    (perform engine observers action s).2.log.filterMap Event.statement? =
      s.log.filterMap Event.statement? ++
        (exchanges engine observers action s).map Exchange.statement :=
  statements_run action.run s

theorem known_perform (action : Action α) (known : s.ledgerKnown = true) :
    (perform engine observers action s).2.ledgerKnown = true :=
  known_run action.run known

theorem exchanges_bind_ok {a : Action α} {f : α → Action β} {x : α}
    (h : perform engine observers a s = (.ok x, t)) :
    exchanges engine observers (a >>= f) s =
      exchanges engine observers a s ++ exchanges engine observers (f x) t := by
  rw [perform] at h
  rw [exchanges, ExceptT.run_bind, transcript_bind, h]
  rfl

theorem exchanges_bind_error {a : Action α} {f : α → Action β} {failure : Failure}
    (h : perform engine observers a s = (.error failure, t)) :
    exchanges engine observers (a >>= f) s = exchanges engine observers a s := by
  rw [perform] at h
  rw [exchanges, ExceptT.run_bind, transcript_bind, h]
  exact List.append_nil _

theorem exists_reply (engine : Engine σ) (observers : List Observer) (sql : String)
    (params : List Value) (statement : Option Statement) (s : Session σ) :
    ∃ reply t,
      perform engine observers (Action.execute sql params statement) s =
        (Action.engineResult reply, t) ∧
      exchanges engine observers (Action.execute sql params statement) s =
        [⟨sql, params, reply⟩] :=
  ⟨_, _, rfl, rfl⟩

theorem exists_reply_perform (engine : Engine σ) (observers : List Observer) (sql : String)
    (s : Session σ) :
    ∃ reply t,
      perform engine observers (Action.perform sql) s =
        (Action.engineResult (reply.map fun _ => ()), t) ∧
      exchanges engine observers (Action.perform sql) s = [⟨sql, [], reply⟩] := by
  obtain ⟨reply, t, executed, sent⟩ := exists_reply engine observers sql [] none s
  refine ⟨reply, t, ?_⟩
  cases reply with
  | ok rows =>
    rw [Action.perform, perform_bind_ok executed, exchanges_bind_ok executed, sent]
    exact ⟨rfl, rfl⟩
  | error e =>
    rw [Action.perform, perform_bind_error executed, exchanges_bind_error executed, sent]
    exact ⟨rfl, rfl⟩

theorem exchanges_orNotFound (a : Action α) (default : α) (s : Session σ) :
    exchanges engine observers (Action.orNotFound a default) s = exchanges engine observers a s := by
  rw [exchanges, Action.orNotFound, ExceptT.run_tryCatch, transcript_bind]
  rcases run engine observers a.run s with ⟨result, u⟩
  refine (congrArg _ ?_).trans (List.append_nil _)
  cases result with
  | ok x => rfl
  | error failure =>
    cases failure with
    | engine e =>
      show transcript engine observers (ExceptT.run (if e.isNotFound then _ else _)) u = _
      split
      next => rfl
      next => rfl
    | request | record | query | state => rfl

theorem exists_reply_orNotFound (engine : Engine σ) (observers : List Observer) (sql : String)
    (params : List Value) (default : List Row) (s : Session σ) :
    ∃ reply t,
      perform engine observers (Action.orNotFound (Action.execute sql params none) default) s =
        (match reply with
          | .ok rows => .ok rows
          | .error e => if e.isNotFound then .ok default else .error (.engine e), t) ∧
      exchanges engine observers (Action.orNotFound (Action.execute sql params none) default) s =
        [⟨sql, params, reply⟩] := by
  obtain ⟨reply, t, asked, sent⟩ := exists_reply engine observers sql params none s
  refine ⟨reply, t, ?_, (exchanges_orNotFound _ _ s).trans sent⟩
  rw [perform_orNotFound, asked]
  cases reply <;> rfl

theorem sql_of_mem_exchanges {allowed : Step → Prop} {action : Action α}
    (h : action.Asks allowed) {texts : String → Prop}
    (only : ∀ sql params statement, allowed (.execute sql params statement) → texts sql)
    {e : Exchange} (member : e ∈ exchanges engine observers action s) : texts e.sql := by
  rw [exchanges] at member
  rw [Action.Asks] at h
  generalize action.run = p at h member
  induction p generalizing s with
  | done a => cases member
  | ask asked next ih =>
    rcases List.mem_append.1 member with now | later
    next =>
      cases asked with
      | execute sql params statement =>
        rw [List.mem_singleton.1 now]
        exact only sql params statement h.1
      | hook | enterTransaction | leaveTransaction | ledgerKnown | rememberLedger => cases now
    next => exact ih _ (h.2 _) later

theorem exchanges_eq_nil {action : Action α} (h : action.Asks fun _ => False) (s : Session σ) :
    exchanges engine observers action s = [] := by
  have never (e : Exchange) (member : e ∈ exchanges engine observers action s) : False :=
    sql_of_mem_exchanges h (fun _ _ _ none => none) member
  exact List.eq_nil_iff_forall_not_mem.2 never

end Session

end OracleSql
