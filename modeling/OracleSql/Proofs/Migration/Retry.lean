import Mathlib.Logic.Relation
import OracleSql.Proofs.Migration.Halfway
import OracleSql.Proofs.Migration.Memory

set_option autoImplicit false

namespace OracleSql

open Reading Session

/-- One engine, and what each of the sessions that use it knows of the ledger. -/
structure Site (σ : Type) where
  engine : σ
  known : Nat → Bool

structure Site.Has {σ : Type} (x : Site σ) (i : Nat) (s : Session σ) : Prop where
  engine : s.engine = x.engine
  known : s.ledgerKnown = x.known i

def Session.counting {σ : Type} (s : Session σ) : Session (σ × Nat) :=
  ⟨(s.engine, 0), s.inTransaction, s.ledgerKnown, s.log⟩

/-- A session tries to migrate, and fails because one of its statements does. -/
inductive Request.FailedAttempt {σ : Type} (engine : Engine σ) (observers : List Observer)
    (options : Options) (r : Request) (x : Site σ) : Site σ → Prop where
  | intro {i : Nat} {s : Session σ} (own : x.Has i s) (position : Nat) {error : EngineError}
      (loud : error.isNotFound = false) {failure : Failure} {u : Session (σ × Nat)}
      (failed : perform (engine.failing position error) observers (r.migrate options) s.counting =
        (.error failure, u)) :
      FailedAttempt engine observers options r x
        ⟨u.engine.1, Function.update x.known i u.ledgerKnown⟩

section Attempts

variable {σ κ : Type} [DecidableEq κ] {R : Reading σ κ} {engine : Engine σ}
  {observers : List Observer} {options : Options} {r : Request} {rows : List LedgerEntry}
  {goal : κ → Option Database.Table} {x y : Site σ}

structure Reading.Waits (R : Reading σ κ) (options : Options) (r : Request)
    (rows : List LedgerEntry) (goal : κ → Option Database.Table) (x : Site σ) : Prop where
  halfway : R.Halfway false (Table.named options r.appliesTo).name r.add rows goal
    (R.contents x.engine) false
  sound : ∀ i, x.known i = true → (R.tables x.engine Ledger.name).isSome = true

theorem Reading.Waits.starts (h : R.Waits options r rows goal x) {i : Nat} {s : Session σ}
    (own : x.Has i s) :
    R.Halfway (R.tables x.engine Ledger.name).isSome (Table.named options r.appliesTo).name r.add
      rows goal (R.contents s.engine) s.ledgerKnown := by
  rw [own.engine, own.known]
  exact h.halfway.of_sound fun either => either.elim id (h.sound i)

variable (serves : R.Serves engine options r ∅) (faithful : IsFaithful R.report)
  (passive : ∀ o ∈ observers, o.IsPassive) (schema : options.schema = none)
  (distinct : ((Attribute.stored r.add).map Attribute.name).Nodup)

include serves faithful passive schema distinct

theorem Reading.Waits.next (accepted : r.fault? = none)
    (gate : r.isApplied (Version.latest (R.listed rows r.appliesTo)) = false)
    (h : R.Waits options r rows goal x) (attempt : r.FailedAttempt engine observers options x y) :
    R.Waits options r rows goal y := by
  cases attempt with
  | @intro i s own position error loud failure u failed =>
    have leads := (serves.failing position error).leads_migrate passive
      (fun e fault => Set.mem_singleton_iff.1 fault ▸ loud) distinct faithful schema accepted rfl
      rfl gate (s := s.counting) (Halfway.counting_iff.2 (h.starts own))
    cases leads with
    | done result => cases failed.symm.trans result
    | interrupted fault result kept =>
      cases failed.symm.trans result
      have kept := Halfway.counting_iff.1 kept
      refine ⟨kept.unseen, fun j => ?_⟩
      rintro (known : Function.update x.known i u.ledgerKnown j = true)
      by_cases same : j = i
      next =>
        subst same
        rw [Function.update_self] at known
        exact kept.booting.sound (.inr known)
      next =>
        -- Another session has seen the ledger, and what is seen stays.
        rw [Function.update_of_ne same] at known
        exact kept.booting.sound (.inl (h.sound j known))

theorem Reading.Waits.after (accepted : r.fault? = none)
    (gate : r.isApplied (Version.latest (R.listed rows r.appliesTo)) = false)
    (h : R.Waits options r rows goal x)
    (attempts : Relation.ReflTransGen (r.FailedAttempt engine observers options) x y) :
    R.Waits options r rows goal y := by
  induction attempts with
  | refl => exact h
  | tail _ attempt ih => exact ih.next serves faithful passive schema distinct accepted gate attempt

/-- However often and wherever a migration has failed, trying it once more without a fault leads to
the tables that it would have led to at once, and to one entry in the ledger. -/
theorem Request.retried_migrate {i j : Nat} {s t u : Session σ} {outcome : Outcome}
    (sound : ∀ i, x.known i = true → (R.tables x.engine Ledger.name).isSome = true)
    (first : x.Has i s)
    (migrated : perform engine observers (r.migrate options) s = (.ok outcome, u))
    (fresh : outcome.wasApplied = false)
    (attempts : Relation.ReflTransGen (r.FailedAttempt engine observers options) x y)
    (last : y.Has j t) :
    ∃ outcome' v, perform engine observers (r.migrate options) t = (.ok outcome', v) ∧
      outcome'.wasApplied = false ∧
      (R.contents v.engine).tables = (R.contents u.engine).tables ∧
      (∃ id, (R.contents v.engine).rows = (R.contents x.engine).rows ++ [r.entry id]) ∧
      ∃ id, (R.contents u.engine).rows = (R.contents x.engine).rows ++ [r.entry id] := by
  obtain ⟨accepted, gate, goal, start⟩ := serves.halfway_of_migrated passive distinct
    (by rw [first.engine, first.known]; exact sound i) migrated fresh
  rw [first.engine] at gate
  rw [first.engine] at start
  have waits : R.Waits options r (R.contents x.engine).rows goal x := ⟨start.unseen, sound⟩
  have waits' := waits.after serves faithful passive schema distinct accepted gate attempts
  obtain ⟨id, -, tables_eq, rows_eq⟩ := (serves.leads_migrate passive isNotFound_of_mem_empty
    distinct faithful schema accepted rfl rfl gate (waits.starts first)).reached migrated
  have leads := serves.leads_migrate passive isNotFound_of_mem_empty
    distinct faithful schema accepted rfl rfl gate (waits'.starts last)
  cases leads with
  | interrupted fault => cases fault
  | @done outcome' v result reached =>
    have fresh' := reached.not_wasApplied
    obtain ⟨id', -, tables_eq', rows_eq'⟩ := reached
    exact ⟨outcome', v, result, fresh', tables_eq'.trans tables_eq.symm, ⟨id', rows_eq'⟩, id,
      rows_eq⟩

end Attempts

def productRequest : Request :=
  ⟨"products", none, none, "1", ColumnDiff.productAttributes, [], []⟩

theorem distinct_products : ((Attribute.stored productRequest.add).map Attribute.name).Nodup := by
  decide

theorem halfway_products : ∃ goal, Memory.reading.Halfway false ⟨none, "products"⟩
    productRequest.add [] goal (Memory.reading.contents .empty) false := by
  have readable : ((Database.clauses (SchemaChange.tableItems ⟨none, "products"⟩
      productRequest.add)).foldlM (Database.Table.add ColumnDiff.readReport) .empty).toOption.all
        (fun t => decide (t.withKey (Database.keyColumns (SchemaChange.tableItems ⟨none, "products"⟩
          productRequest.add))).IsReadable) = true := by
    decide +kernel
  obtain ⟨t, accepted, -⟩ := ColumnDiff.exists_columns ColumnDiff.readReport distinct_products
    ⟨none, "products"⟩
  rw [accepted] at readable
  exact ⟨_, ⟨nofun, fun _ => rfl, rfl, rfl⟩, _,
    .creates rfl accepted (Memory.holds_iff.2 (of_decide_eq_true readable)), rfl⟩

theorem gate_products : productRequest.isApplied
    (Version.latest (Memory.reading.listed [] productRequest.appliesTo)) = false := by
  have above : Version.compare "0.0" "1" = .lt := by
    unfold Version.compare Version.compareSegments; decide +kernel
  show (Version.compare "0.0" "1" != .lt) = false
  rw [above]
  rfl

theorem accepted_products : productRequest.fault? = none := by
  have target : (Text.trim "products").isEmpty = false := by decide +kernel
  simp [Request.fault?, productRequest, target]

def cancelled : EngineError :=
  ⟨"ORA-01013: user requested cancel of current operation"⟩

def productSite : Site Memory :=
  ⟨.empty, fun _ => false⟩

def halfMadeSite : Site Memory :=
  ⟨Memory.empty.withTable Ledger.tableName Memory.ledgerTable, fun _ => false⟩

theorem failedAttempt_products :
    productRequest.FailedAttempt Memory.engine [] .empty productSite halfMadeSite := by
  have passive : ∀ o ∈ ([] : List Observer), o.IsPassive := List.forall_mem_nil _
  have counts : Memory.engine.execute (Catalog.countText Ledger.name .table)
      (.text Ledger.tableName :: Catalog.ownerParams Ledger.name) .empty =
        (.ok [Memory.countRow false], .empty) := by
    rw [Memory.execute_select (startsWith_countText _ _), Memory.select_countTable]
    rfl
  obtain ⟨s, counted, state, known⟩ := exists_perform_failing_of_ne cancelled passive
    (s := (Session.start Memory.empty).counting) rfl (by decide : 0 ≠ 2) counts
  obtain ⟨t, made, state, known'⟩ := exists_perform_failing_of_ne cancelled passive state
    (by decide : 1 ≠ 2) (Memory.execute_createLedger [] .empty)
  obtain ⟨u, stopped, state, known''⟩ := exists_perform_failing_self Memory.engine cancelled
    Ledger.createSequenceText [] passive state
  have absent : perform (Memory.engine.failing 2 cancelled) [] (Catalog.has .table Ledger.name)
      (Session.start Memory.empty).counting = (.ok false, s) :=
    perform_orNotFound_ok ((perform_bind_ok counted).trans rfl)
  have created : perform (Memory.engine.failing 2 cancelled) []
      (Action.perform Ledger.createTableText) s = (.ok (), t) := (perform_bind_ok made).trans rfl
  have failed : perform (Memory.engine.failing 2 cancelled) [] (productRequest.migrate .empty)
      (Session.start Memory.empty).counting = (.error (.engine cancelled), u) := by
    rw [Request.migrate_of_accepted accepted_products]
    refine perform_bind_error ?_
    rw [Ledger.ensure, perform_bind_ok (perform_ledgerKnown _)]
    refine (perform_bind_ok absent).trans ?_
    exact (perform_bind_ok created).trans (perform_bind_error (perform_bind_error stopped))
  have attempt := Request.FailedAttempt.intro (x := productSite) (i := 0)
    ⟨rfl, rfl⟩ 2 (by decide +kernel) failed
  have unknown : u.ledgerKnown = productSite.known 0 := known''.trans (known'.trans known)
  rw [state, unknown, Function.update_eq_self] at attempt
  exact attempt

theorem retried_products :
    ∃ outcome outcome' u v,
      perform Memory.engine [] (productRequest.migrate .empty) (Session.start productSite.engine) =
        (.ok outcome, u) ∧
      perform Memory.engine [] (productRequest.migrate .empty) (Session.start halfMadeSite.engine) =
        (.ok outcome', v) ∧
      outcome'.wasApplied = false ∧
      (Memory.reading.contents v.engine).tables = (Memory.reading.contents u.engine).tables ∧
      ∃ id, v.engine.rows = [productRequest.entry id] := by
  have passive : ∀ o ∈ ([] : List Observer), o.IsPassive := List.forall_mem_nil _
  have own : productSite.Has 0 (Session.start productSite.engine) := ⟨rfl, rfl⟩
  have own' : halfMadeSite.Has 1 (Session.start halfMadeSite.engine) := ⟨rfl, rfl⟩
  have named : (Table.named .empty productRequest.appliesTo).name = ⟨none, "products"⟩ :=
    ObjectName.resolve_of_no_dot "products" none (by decide)
  obtain ⟨goal, start⟩ := halfway_products
  have leads := (Memory.serves .empty productRequest).leads_migrate passive isNotFound_of_mem_empty distinct_products
    ColumnDiff.isFaithful_readReport rfl accepted_products rfl named gate_products
    (s := Session.start productSite.engine) start
  cases leads with
  | interrupted fault => cases fault
  | @done outcome u migrated reached =>
    obtain ⟨outcome', v, result, fresh', tables_eq, rows, -⟩ :=
      Request.retried_migrate (Memory.serves .empty _) ColumnDiff.isFaithful_readReport passive rfl
        distinct_products (fun _ known => absurd known Bool.false_ne_true) own migrated
        reached.not_wasApplied (.single failedAttempt_products) own'
    exact ⟨outcome, outcome', u, v, migrated, result, fresh', tables_eq, rows⟩

end OracleSql
