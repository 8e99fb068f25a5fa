import OracleSql.Proofs.Migration.Repeat
import OracleSql.Proofs.Session.Transcript
import OracleSql.Session.Script

set_option autoImplicit false

namespace OracleSql

def Exchange.inserts (e : Exchange) : Bool :=
  Text.startsWith "INSERT " e.sql

/-- The entry is inserted once and last, or not at all. -/
inductive InsertsLast : Except Failure Outcome → List Exchange → Prop where
  | applied {version : String} {log : List Exchange} (none : ∀ e ∈ log, e.inserts = false) :
      InsertsLast (.ok (.alreadyApplied version)) log
  | recorded {outcome : Outcome} {entry : LedgerEntry} {rows : List Row} {before : List Exchange}
      (entered : outcome.recorded = some entry) (none : ∀ e ∈ before, e.inserts = false) :
      InsertsLast (.ok outcome) (before ++ [⟨Ledger.insertText, entry.params, .ok rows⟩])
  | unreached {failure : Failure} {log : List Exchange} (none : ∀ e ∈ log, e.inserts = false) :
      InsertsLast (.error failure) log
  | refused {error : EngineError} {entry : LedgerEntry} {before : List Exchange}
      (none : ∀ e ∈ before, e.inserts = false) :
      InsertsLast (.error (.engine error))
        (before ++ [⟨Ledger.insertText, entry.params, .error error⟩])

theorem InsertsLast.prepend {out : Except Failure Outcome} {before log : List Exchange}
    (none : ∀ e ∈ before, e.inserts = false) (h : InsertsLast out log) :
    InsertsLast out (before ++ log) := by
  have both {log : List Exchange} (none' : ∀ e ∈ log, e.inserts = false) :
      ∀ e ∈ before ++ log, e.inserts = false :=
    fun e member => (List.mem_append.1 member).elim (none e) (none' e)
  cases h with
  | applied none' => exact .applied (both none')
  | recorded entered none' => rw [← List.append_assoc]; exact .recorded entered (both none')
  | unreached none' => exact .unreached (both none')
  | refused none' => rw [← List.append_assoc]; exact .refused (both none')

open Session

variable {σ α : Type} {engine : Engine σ} {observers : List Observer} {s : Session σ}

theorem not_inserts_of_asks (engine : Engine σ) (observers : List Observer) {action : Action α}
    (h : action.Asks IsPreparing) (s : Session σ) :
    ∀ e ∈ exchanges engine observers action s, e.inserts = false :=
  fun _ member => sql_of_mem_exchanges h (fun _ _ _ allowed => allowed.1.not_inserts) member

theorem insertsLast_bind {a : Action α} {f : α → Action Outcome} (h : a.Asks IsPreparing)
    (k : ∀ x t, InsertsLast (perform engine observers (f x) t).1
      (exchanges engine observers (f x) t)) (s : Session σ) :
    InsertsLast (perform engine observers (a >>= f) s).1
      (exchanges engine observers (a >>= f) s) := by
  have none := not_inserts_of_asks engine observers h s
  cases result : perform engine observers a s with
  | mk out t =>
    cases out with
    | error failure =>
      rw [perform_bind_error result, exchanges_bind_error result]
      exact .unreached none
    | ok x =>
      rw [perform_bind_ok result, exchanges_bind_ok result]
      exact (k x t).prepend none

theorem insertsLast_append (options : Options) (entry : Int → LedgerEntry)
    (outcome : LedgerEntry → Outcome) (recorded : ∀ e, (outcome e).recorded = some e)
    (s : Session σ) :
    InsertsLast
      (perform engine observers
        (do let e ← Ledger.append options entry; pure (outcome e)) s).1
      (exchanges engine observers
        (do let e ← Ledger.append options entry; pure (outcome e)) s) := by
  rw [Ledger.append, bind_assoc]
  refine insertsLast_bind (.next options Ledger.tableName Ledger.idName) (fun id t => ?_) s
  rw [bind_assoc]
  obtain ⟨reply, u, executed, sent⟩ := exists_reply engine observers Ledger.insertText
    (entry id).params none t
  -- The reply to the insertion is the last thing that matters.
  cases reply with
  | error error =>
    rw [perform_bind_error executed, exchanges_bind_error executed, sent]
    exact .refused (List.forall_mem_nil _)
  | ok rows =>
    rw [perform_bind_ok executed, exchanges_bind_ok executed, sent]
    exact .recorded (recorded (entry id)) (List.forall_mem_nil _)

namespace Request

theorem insertsLast_apply (options : Options) (r : Request) (s : Session σ) :
    InsertsLast (perform engine observers (r.apply options) s).1
      (exchanges engine observers (r.apply options) s) := by
  rw [Request.apply]
  refine insertsLast_bind (.isThere _) (fun there t => ?_) s
  cases there with
  | true =>
    refine insertsLast_bind (.alter r _) (fun counts u => ?_) t
    exact insertsLast_append options r.entry (.altered counts.1 counts.2) (fun _ => rfl) u
  | false =>
    refine insertsLast_bind (.create _ r.add) (fun _ u => ?_) t
    exact insertsLast_append options r.entry .created (fun _ => rfl) u

theorem insertsLast_migrate (options : Options) (r : Request) (s : Session σ) :
    InsertsLast (perform engine observers (r.migrate options) s).1
      (exchanges engine observers (r.migrate options) s) := by
  cases accepted : r.fault? with
  | some fault =>
    rw [migrate_of_fault accepted]
    exact .unreached (List.forall_mem_nil _)
  | none =>
    rw [migrate_of_accepted accepted]
    refine insertsLast_bind .ensureLedger (fun _ t => ?_) s
    refine insertsLast_bind (.version r.appliesTo) (fun current u => ?_) t
    by_cases applied : r.isApplied current = true
    next =>
      rw [if_pos applied]
      exact .applied (List.forall_mem_nil _)
    next =>
      rw [if_neg applied]
      exact insertsLast_apply options r u

end Request

def Ledger.checkText : String :=
  Catalog.countText ⟨none, tableName⟩ .table

def Ledger.bootTexts : List String :=
  [checkText, createTableText, createSequenceText]

def IsBoot : Step → Prop
  | .execute sql _ _ => sql ∈ Ledger.bootTexts
  | .ledgerKnown | .rememberLedger => True
  | .hook _ | .enterTransaction | .leaveTransaction => False

def LearnsNothing : Step → Prop
  | .rememberLedger => False
  | _ => True

theorem Action.Asks.has_of_execute {allowed : Step → Prop} {kind : ObjectKind} {n : ObjectName}
    (h : allowed
      (.execute (Catalog.countText n kind) (.text n.name :: Catalog.ownerParams n) none)) :
    Asks allowed (Catalog.has kind n) :=
  orNotFound (bind (execute h) fun _ => bind (expect _ _) fun _ => pure _)

theorem Ledger.asks_ensure : Ledger.ensure.Asks IsBoot := by
  refine .bind (.ledgerKnown trivial) fun known => ?_
  refine .ite (.pure ()) (.bind (.has_of_execute List.mem_cons_self) fun there => ?_)
  cases there with
  | true => exact .bind (.pure ()) fun _ => .rememberLedger trivial
  | false =>
    exact .bind (.perform (by simp [IsBoot, bootTexts])) fun _ =>
      .bind (.perform (by simp [IsBoot, bootTexts])) fun _ => .rememberLedger trivial

theorem Session.ledgerKnown_of_asks (engine : Engine σ) (observers : List Observer)
    {action : Action α} (h : action.Asks LearnsNothing) (s : Session σ) :
    (perform engine observers action s).2.ledgerKnown = s.ledgerKnown := by
  refine run_of_asks (fun t => t.ledgerKnown = s.ledgerKnown) ?_ h rfl
  intro step t allowed same
  cases step with
  | execute sql params statement =>
    exact (execute_ledgerKnown ⟨sql, params, statement⟩ t).trans same
  | hook | enterTransaction | leaveTransaction | ledgerKnown => exact same
  | rememberLedger => cases allowed

-- The ledger has been found or made. A check that misses an object is as good as a count of zero.
def Ledger.Boots (boot : List Exchange) : Prop :=
  ∀ e ∈ boot, e.succeeds = true ∨ e.sql = checkText ∧ e.missesObject = true

theorem Catalog.exists_exchange_has {kind : ObjectKind} {n : ObjectName} {there : Bool}
    {t : Session σ} (h : perform engine observers (Catalog.has kind n) s = (.ok there, t)) :
    ∃ e, exchanges engine observers (Catalog.has kind n) s = [e] ∧
      e.sql = Catalog.countText n kind ∧ (e.succeeds = true ∨ e.missesObject = true) := by
  rw [Catalog.has, perform_orNotFound] at h
  rw [Catalog.has, exchanges_orNotFound]
  obtain ⟨reply, u, executed, sent⟩ := exists_reply engine observers (Catalog.countText n kind)
    (.text n.name :: Catalog.ownerParams n) none s
  cases reply with
  | ok rows =>
    have quiet : (Action.expect (Catalog.countOf? rows) .noCount >>= fun count =>
        pure (decide (0 < count))).Asks fun _ => False := .bind (.expect _ _) fun _ => .pure _
    rw [exchanges_bind_ok executed, sent, exchanges_eq_nil quiet]
    exact ⟨_, rfl, rfl, .inl rfl⟩
  | error e =>
    rw [perform_bind_error executed] at h
    rw [exchanges_bind_error executed, sent]
    refine ⟨_, rfl, rfl, .inr ?_⟩
    -- Any other failure would have been passed on.
    show e.isNotFound = true
    by_contra found
    simp [found] at h

theorem Session.exists_exchange_perform {sql : String} {t : Session σ}
    (h : perform engine observers (Action.perform sql) s = (.ok (), t)) :
    ∃ e, exchanges engine observers (Action.perform sql) s = [e] ∧ e.succeeds = true := by
  obtain ⟨reply, u, executed, sent⟩ := exists_reply_perform engine observers sql s
  rw [executed] at h
  cases reply with
  | ok rows => exact ⟨_, sent, rfl⟩
  | error e => cases h

inductive Ledger.Booting (engine : Engine σ) (observers : List Observer) (part : Action Unit)
    (s : Session σ) : Prop where
  | failed {failure : Failure} {t : Session σ}
      (result : perform engine observers part s = (.error failure, t))
      (unknown : t.ledgerKnown = false)
  | done {t : Session σ} (result : perform engine observers part s = (.ok (), t))
      (boots : Boots (exchanges engine observers part s))

theorem Ledger.booting_bind {a : Action α} {f : α → Action Unit} (only : a.Asks LearnsNothing)
    (unknown : s.ledgerKnown = false)
    (boots : ∀ x t, perform engine observers a s = (.ok x, t) →
      Boots (exchanges engine observers a s))
    (next : ∀ x t, perform engine observers a s = (.ok x, t) → t.ledgerKnown = false →
      Booting engine observers (f x) t) :
    Booting engine observers (a >>= f) s := by
  have same := ledgerKnown_of_asks engine observers only s
  rw [unknown] at same
  cases result : perform engine observers a s with
  | mk out t =>
    rw [result] at same
    cases out with
    | error failure => exact .failed (perform_bind_error result) same
    | ok x =>
      have first := boots x t result
      cases next x t result same with
      | failed failed later => exact .failed ((perform_bind_ok result).trans failed) later
      | done done later =>
        refine .done ((perform_bind_ok result).trans done) ?_
        rw [exchanges_bind_ok result]
        exact fun e member => (List.mem_append.1 member).elim (first e) (later e)

theorem Ledger.booting_ensure (engine : Engine σ) (observers : List Observer)
    (unknown : s.ledgerKnown = false) :
    Booting engine observers Ledger.ensure s := by
  have performed (sql : String) (t : Session σ) (x : Unit) (u : Session σ)
      (h : perform engine observers (Action.perform sql) t = (.ok x, u)) :
      Boots (exchanges engine observers (Action.perform sql) t) := by
    obtain ⟨e, sent, succeeds⟩ := exists_exchange_perform h
    simp [Boots, sent, succeeds]
  have remembered (t : Session σ) : Booting engine observers Action.rememberLedger t :=
    .done rfl (List.forall_mem_nil _)
  rw [Ledger.ensure]
  refine booting_bind (.ledgerKnown trivial) unknown (fun _ _ _ => List.forall_mem_nil _) ?_
  rintro known t ⟨⟩ -
  rw [unknown, if_neg Bool.false_ne_true]
  refine booting_bind (.has_of_execute trivial) unknown ?_ fun there u _ unknown => ?_
  next =>
    intro there u h
    obtain ⟨e, sent, text, checked⟩ := Catalog.exists_exchange_has h
    have sql : e.sql = checkText := text
    simpa [Boots, sent, sql] using checked
  next =>
    cases there with
    | true => exact remembered u
    | false =>
      refine booting_bind (.perform trivial) unknown (performed _ u) fun _ v _ unknown => ?_
      exact booting_bind (.perform trivial) unknown (performed _ v) fun _ w _ _ => remembered w

theorem Request.fault?_isSome_iff (r : Request) : r.fault?.isSome = true ↔
    (Text.trim r.appliesTo).isEmpty = true ∨ r.change ≠ [] ∨ r.remove ≠ [] := by
  unfold Request.fault?
  split
  next blank => simp [blank]
  next there =>
    split
    next removes => simpa [there] using .inr (by simpa using removes)
    next keeps =>
      split
      next changes => simpa [there] using .inl (by simpa using changes)
      next same => simp_all

namespace Request

/-- What one migration executes and leaves, where `boot` is what it takes to know the ledger. -/
structure Accounts (r : Request) (s : Session σ) (boot log : List Exchange)
    (out : Except Failure Outcome × Session σ) : Prop where
  logged : out.2.log.filterMap Event.statement? =
    s.log.filterMap Event.statement? ++ log.map Exchange.statement
  rejected : (Text.trim r.appliesTo).isEmpty = true ∨ r.change ≠ [] ∨ r.remove ≠ [] →
    (∃ fault, out = (.error (.request fault), s)) ∧ log = []
  applied : ∀ version, out.1 = .ok (.alreadyApplied version) →
    (∃ reply, log = boot ++ [⟨Ledger.versionsText, [.text r.appliesTo], reply⟩]) ∧
      ∀ e ∈ boot, e.sql ∈ Ledger.bootTexts
  insertion : InsertsLast out.1 log
  stays : s.ledgerKnown = true → out.2.ledgerKnown = true
  learned : s.ledgerKnown = false → out.2.ledgerKnown = true → boot <+: log ∧ Ledger.Boots boot

theorem exists_exchange_version (engine : Engine σ) (observers : List Observer) (appliesTo : String)
    (s : Session σ) : ∃ reply, exchanges engine observers (Ledger.version appliesTo) s =
      [⟨Ledger.versionsText, [.text appliesTo], reply⟩] := by
  obtain ⟨reply, t, executed, sent⟩ := exists_reply engine observers Ledger.versionsText
    [.text appliesTo] none s
  refine ⟨reply, ?_⟩
  cases reply with
  | ok rows => rw [Ledger.version, exchanges_bind_ok executed, sent]; rfl
  | error e => rw [Ledger.version, exchanges_bind_error executed, sent]

theorem exists_exchanges_of_applied {options : Options} {r : Request} {version : String}
    {t : Session σ}
    (applied : perform engine observers (r.migrate options) s =
      (.ok (.alreadyApplied version), t)) :
    ∃ reply, exchanges engine observers (r.migrate options) s =
      exchanges engine observers Ledger.ensure s ++
        [⟨Ledger.versionsText, [.text r.appliesTo], reply⟩] := by
  cases accepted : r.fault? with
  | some fault =>
    rw [migrate_of_fault accepted] at applied
    cases applied
  | none =>
    rw [migrate_of_accepted accepted] at applied ⊢
    obtain ⟨_, u, ensured, applied⟩ := exists_of_perform_bind applied
    obtain ⟨current, v, known, applied⟩ := exists_of_perform_bind applied
    obtain ⟨reply, sent⟩ := exists_exchange_version engine observers r.appliesTo u
    refine ⟨reply, ?_⟩
    rw [exchanges_bind_ok ensured, exchanges_bind_ok known, sent]
    by_cases gate : r.isApplied current = true
    next =>
      rw [if_pos gate]
      rfl
    next =>
      -- Behind the gate the outcome is another one.
      rw [if_neg gate] at applied
      refine absurd ?_ (not_isAlreadyApplied_apply engine observers options r v)
      rw [applied]
      exact .intro version

theorem boots_of_learned {options : Options} {r : Request} (unknown : s.ledgerKnown = false)
    (known : (perform engine observers (r.migrate options) s).2.ledgerKnown = true) :
    exchanges engine observers Ledger.ensure s <+: exchanges engine observers (r.migrate options) s ∧
      Ledger.Boots (exchanges engine observers Ledger.ensure s) := by
  cases accepted : r.fault? with
  | some fault =>
    rw [migrate_of_fault accepted] at known
    exact absurd (unknown.symm.trans known) Bool.false_ne_true
  | none =>
    rw [migrate_of_accepted accepted] at known ⊢
    cases Ledger.booting_ensure engine observers unknown with
    | failed failed still =>
      rw [perform_bind_error failed] at known
      exact absurd (still.symm.trans known) Bool.false_ne_true
    | done done boots =>
      rw [exchanges_bind_ok done]
      exact ⟨List.prefix_append _ _, boots⟩

/-- A migration that succeeds ends with the insertion of its entry, and no other migration inserts
anything. -/
theorem accounts_migrate (engine : Engine σ) (observers : List Observer) (options : Options)
    (r : Request) (s : Session σ) :
    r.Accounts s (exchanges engine observers Ledger.ensure s)
      (exchanges engine observers (r.migrate options) s)
      (perform engine observers (r.migrate options) s) where
  logged := statements_perform _ s
  rejected := by
    intro rejects
    obtain ⟨fault, isFault⟩ := Option.isSome_iff_exists.1 (r.fault?_isSome_iff.2 rejects)
    rw [migrate_of_fault isFault]
    exact ⟨⟨fault, rfl⟩, rfl⟩
  applied version h := by
    obtain ⟨t, result⟩ := exists_perform_eq h
    refine ⟨exists_exchanges_of_applied result, fun e member => ?_⟩
    exact sql_of_mem_exchanges Ledger.asks_ensure (fun _ _ _ boots => boots) member
  insertion := insertsLast_migrate options r s
  stays := known_perform _
  learned := boots_of_learned

end Request

def missedScript : Script :=
  ⟨[.error ⟨"ORA-00942: table or view does not exist"⟩, .ok [], .ok [],
    .error ⟨"ORA-12541: no listener"⟩], fun _ => none⟩

theorem ledger_known_after_missed_check :
    ¬∀ (r : Request) (s : Session Script), s.ledgerKnown = false →
      (perform Script.engine [] (r.migrate .empty) s).2.ledgerKnown = true →
      ∀ e ∈ exchanges Script.engine [] Ledger.ensure s, e.succeeds = true := by
  intro claimed
  have known : (perform Script.engine [] ((plainRequest "1").migrate .empty)
      (start missedScript)).2.ledgerKnown = true := by
    rw [Request.migrate_of_accepted (by decide +kernel)]
    rfl
  have missed : (⟨Ledger.checkText, [.text Ledger.tableName],
      .error ⟨"ORA-00942: table or view does not exist"⟩⟩ : Exchange) ∈
        exchanges Script.engine [] Ledger.ensure (start missedScript) := List.mem_cons_self
  exact Bool.false_ne_true (claimed (plainRequest "1") (start missedScript) rfl known _ missed)

end OracleSql
