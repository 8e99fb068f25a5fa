import OracleSql.Migration.Migrate
import OracleSql.Proofs.Migration.Version
import OracleSql.Proofs.Session.Perform

set_option autoImplicit false

namespace OracleSql

def SchemaChange.builds : SchemaChange → Bool
  | .createTable _ _ | .addColumns _ _ | .modifyColumns _ _ | .createSequence _ => true
  | _ => false

inductive Preparing : String → Prop where
  | query {sql : String} (reads : Text.startsWith "SELECT " sql = true) : Preparing sql
  | ledgerTable : Preparing Ledger.createTableText
  | ledgerSequence : Preparing Ledger.createSequenceText
  | change {c : SchemaChange} {sql : String} (builds : c.builds = true)
      (statement : sql ∈ c.statements) : Preparing sql

def IsPreparing : Step → Prop
  | .execute sql _ statement => Preparing sql ∧ statement = none
  | .ledgerKnown | .rememberLedger => True
  | .hook _ | .enterTransaction | .leaveTransaction => False

theorem startsWith_count_countText (n : ObjectName) (kind : ObjectKind) :
    Text.startsWith "SELECT COUNT" (Catalog.countText n kind) = true := by
  cases kind with
  | table | view => exact startsWith_append (startsWith_append (startsWith_literal rfl) _) _
  | sequence => exact startsWith_append (startsWith_literal rfl) _

theorem startsWith_countText (n : ObjectName) (kind : ObjectKind) :
    Text.startsWith "SELECT " (Catalog.countText n kind) = true :=
  startsWith_shorter (startsWith_count_countText n kind) rfl

theorem startsWith_column_columnsText (table : ObjectName) :
    Text.startsWith "SELECT c0." (Catalog.columnsText table) = true := by
  unfold Catalog.columnsText
  iterate 11 refine startsWith_append ?_ _
  exact startsWith_literal rfl

theorem startsWith_columnsText (table : ObjectName) :
    Text.startsWith "SELECT " (Catalog.columnsText table) = true :=
  startsWith_shorter (startsWith_column_columnsText table) rfl

theorem startsWith_nextText (sequence : String) :
    Text.startsWith "SELECT " (Identity.nextText sequence) = true :=
  startsWith_append (startsWith_append (startsWith_literal rfl) _) _

-- The one text ends with the name of a table, the other one with a parameter.
theorem Identity.nextText_ne_versionsText (sequence : String) :
    Identity.nextText sequence ≠ Ledger.versionsText := by
  intro same
  have last : (Identity.nextText sequence).toList.getLast? = some 'L' := by
    rw [Identity.nextText, String.toList_append, String.toList_ofList,
      List.getLast?_append_of_ne_nil _ (by decide)]
    rfl
  rw [same, Ledger.versionsText, String.toList_ofList] at last
  exact absurd last (by decide)

theorem startsWith_versionsText : Text.startsWith "SELECT " Ledger.versionsText = true :=
  startsWith_literal rfl

theorem startsWith_createTableText :
    Text.startsWith "CREATE TABLE " Ledger.createTableText = true :=
  startsWith_append (startsWith_append (startsWith_literal rfl) _) _

theorem startsWith_insertText : Text.startsWith "INSERT " Ledger.insertText = true :=
  startsWith_append (startsWith_literal rfl) _

theorem SchemaChange.startsWith_tableText (table : ObjectName) (attributes : List Attribute) :
    Text.startsWith "CREATE TABLE " (tableText table attributes) = true := by
  unfold tableText
  iterate 4 refine startsWith_append ?_ _
  exact startsWith_literal rfl

theorem SchemaChange.startsWith_alterText (table : ObjectName) (action : String)
    (definitions : List String) :
    Text.startsWith "ALTER TABLE " (alterText table action definitions) = true := by
  unfold alterText
  iterate 6 refine startsWith_append ?_ _
  exact startsWith_literal rfl

theorem SchemaChange.startsWith_of_builds {c : SchemaChange} (builds : c.builds = true) {sql : String}
    (statement : sql ∈ c.statements) :
    Text.startsWith "CREATE " sql = true ∨ Text.startsWith "ALTER " sql = true := by
  have altered (table : ObjectName) (action : String) (definitions : List String) :
      Text.startsWith "ALTER " (alterText table action definitions) = true :=
    startsWith_shorter (startsWith_alterText table action definitions) rfl
  cases c with
  | createTable table attributes =>
    have text : sql = tableText table attributes := List.mem_singleton.1 statement
    subst text
    exact .inl (startsWith_shorter (startsWith_tableText table attributes) rfl)
  | addColumns table attributes =>
    simp only [statements] at statement
    split at statement
    next => cases statement
    next => rw [List.mem_singleton.1 statement]; exact .inr (altered _ _ _)
  | modifyColumns table columns =>
    simp only [statements] at statement
    split at statement
    next => cases statement
    next => rw [List.mem_singleton.1 statement]; exact .inr (altered _ _ _)
  | createSequence name =>
    have text : sql = "CREATE SEQUENCE " ++ Name.quote name ++ " START WITH 1 INCREMENT BY 1" :=
      List.mem_singleton.1 statement
    subst text
    refine .inl ?_
    iterate 2 refine startsWith_append ?_ _
    exact startsWith_literal rfl
  | dropTable | restartSequence | createIndex | dropIndex | createView | dropView => cases builds

theorem Preparing.not_inserts {sql : String} (h : Preparing sql) :
    Text.startsWith "INSERT " sql = false := by
  cases h with
  | query reads => exact startsWith_other reads rfl rfl
  | ledgerTable => exact startsWith_other startsWith_createTableText rfl rfl
  | ledgerSequence => exact startsWith_literal rfl
  | change builds statement =>
    rcases SchemaChange.startsWith_of_builds builds statement with creates | alters
    next => exact startsWith_other creates rfl rfl
    next => exact startsWith_other alters rfl rfl

namespace Action.Asks

theorem has (kind : ObjectKind) (n : ObjectName) : Asks IsPreparing (Catalog.has kind n) :=
  orNotFound (bind (execute ⟨.query (startsWith_countText n kind), rfl⟩) fun _ =>
    bind (expect _ _) fun _ => pure _)

theorem columns (table : ObjectName) : Asks IsPreparing (Catalog.columns table) :=
  orNotFound (bind (execute ⟨.query (startsWith_columnsText table), rfl⟩) fun _ => expect _ _)

theorem apply {c : SchemaChange} (builds : c.builds = true) : Asks IsPreparing c.apply :=
  forM fun _ statement => perform ⟨.change builds statement, rfl⟩

theorem ensureLedger : Asks IsPreparing Ledger.ensure := by
  refine bind (ledgerKnown trivial) fun known => ?_
  refine ite (pure ()) (bind (has _ _) fun there => ?_)
  cases there with
  | true => exact bind (pure ()) fun _ => rememberLedger trivial
  | false =>
    exact bind (perform ⟨.ledgerTable, rfl⟩) fun _ =>
      bind (perform ⟨.ledgerSequence, rfl⟩) fun _ => rememberLedger trivial

theorem version (appliesTo : String) : Asks IsPreparing (Ledger.version appliesTo) :=
  bind (execute ⟨.query startsWith_versionsText, rfl⟩) fun _ => pure _

theorem next (options : Options) (entity column : String) :
    Asks IsPreparing (Identity.next options entity column) := by
  refine bind (bind (has _ _) fun there => ite (pure ()) (apply rfl)) fun _ => ?_
  exact bind (execute ⟨.query (startsWith_nextText _), rfl⟩) fun _ => expect _ _

theorem isThere (t : Table) : Asks IsPreparing t.isThere :=
  has .table t.name

theorem create (t : Table) (attributes : List Attribute) :
    Asks IsPreparing (t.create attributes) :=
  ite (throw _) (apply rfl)

theorem alter (r : Request) (t : Table) : Asks IsPreparing (r.alter t) := by
  refine bind (columns t.name) fun existing => bind (apply rfl) fun _ => ?_
  split
  next => exact bind (pure ()) fun _ => pure _
  next => exact bind (apply rfl) fun _ => pure _

end Action.Asks

def versionsOf (appliesTo : String) (ledger : List (String × String)) : List String :=
  (ledger.filter fun e => e.1 == appliesTo).map Prod.snd

/-- Entries are appended and stay, and what is read of them is true. The ledger table is found when
it has entries. Anything else that a migration executes leaves the entries alone. -/
structure KeepsLedger {σ : Type} (engine : Engine σ) (ledger : σ → List (String × String)) : Prop where
  preparing : ∀ sql params x, Preparing sql → ledger (engine.execute sql params x).2 = ledger x
  inserted : ∀ (e : LedgerEntry) x rows, (engine.execute Ledger.insertText e.params x).1 = .ok rows →
    ledger (engine.execute Ledger.insertText e.params x).2 = ledger x ++ [(e.appliesTo, e.version)]
  refused : ∀ (e : LedgerEntry) x error,
    (engine.execute Ledger.insertText e.params x).1 = .error error →
    ledger (engine.execute Ledger.insertText e.params x).2 = ledger x
  versions : ∀ appliesTo x rows,
    (engine.execute Ledger.versionsText [.text appliesTo] x).1 = .ok rows →
    rows.filterMap (fun row => row.text? "version") = versionsOf appliesTo (ledger x)
  answers : ∀ appliesTo x, ledger x ≠ [] →
    ∃ rows, (engine.execute Ledger.versionsText [.text appliesTo] x).1 = .ok rows
  found : ∀ x, ledger x ≠ [] → ∃ rows count,
    (engine.execute (Catalog.countText ⟨none, Ledger.tableName⟩ .table)
      [.text Ledger.tableName] x).1 = .ok rows ∧ Catalog.countOf? rows = some count ∧ 0 < count

open Session

variable {σ : Type} {engine : Engine σ} {observers : List Observer}
  {ledger : σ → List (String × String)}

theorem KeepsLedger.of_asks (keeps : KeepsLedger engine ledger) {α : Type} {action : Action α}
    (h : action.Asks IsPreparing) (s : Session σ) :
    ledger (perform engine observers action s).2.engine = ledger s.engine := by
  refine run_of_asks (fun t => ledger t.engine = ledger s.engine) ?_ h rfl
  intro step t allowed same
  cases step with
  -- Only the engine holds the ledger, and it is asked for preparing statements only.
  | execute sql params statement =>
    show ledger (t.execute engine observers ⟨sql, params, statement⟩).2.engine = _
    rw [execute_engine, keeps.preparing sql params t.engine allowed.1, same]
  | ledgerKnown | rememberLedger => exact same
  | hook | enterTransaction | leaveTransaction => cases allowed

theorem KeepsLedger.prepares (keeps : KeepsLedger engine ledger) {α : Type} {action : Action α}
    (h : action.Asks IsPreparing) (s : Session σ) :
    (∃ failure t, perform engine observers action s = (.error failure, t) ∧
      ledger t.engine = ledger s.engine) ∨
    ∃ x t, perform engine observers action s = (.ok x, t) ∧ ledger t.engine = ledger s.engine := by
  -- What only prepares fails or goes on, and the ledger is as before.
  have same : ledger (perform engine observers action s).2.engine = ledger s.engine :=
    keeps.of_asks h s
  cases result : perform engine observers action s with
  | mk outcome t =>
    rw [result] at same
    cases outcome with
    | error failure => exact .inl ⟨failure, t, rfl, same⟩
    | ok x => exact .inr ⟨x, t, rfl, same⟩

theorem KeepsLedger.version_eq (keeps : KeepsLedger engine ledger)
    (passive : ∀ o ∈ observers, o.IsPassive) {appliesTo current : String} {s t : Session σ}
    (h : perform engine observers (Ledger.version appliesTo) s = (.ok current, t)) :
    current = Version.latest (versionsOf appliesTo (ledger s.engine)) ∧
      ledger t.engine = ledger s.engine := by
  -- A version that is read is the latest one of the ledger.
  obtain ⟨u, executed, engine', -⟩ := perform_execute_plain engine passive
    Ledger.versionsText [.text appliesTo] s
  have kept := keeps.preparing Ledger.versionsText [.text appliesTo] s.engine
    (.query startsWith_versionsText)
  cases reply : (engine.execute Ledger.versionsText [.text appliesTo] s.engine).1 with
  | error failure =>
    rw [reply] at executed
    rw [Ledger.version, perform_bind_error executed] at h
    cases h
  | ok rows =>
    rw [reply] at executed
    rw [Ledger.version, perform_bind_ok executed] at h
    cases h
    rw [keeps.versions appliesTo s.engine rows reply, engine', kept]
    exact ⟨rfl, rfl⟩

theorem KeepsLedger.append_cases (keeps : KeepsLedger engine ledger)
    (passive : ∀ o ∈ observers, o.IsPassive) (options : Options) (entry : Int → LedgerEntry)
    (s : Session σ) :
    (∃ id t, perform engine observers (Ledger.append options entry) s = (.ok (entry id), t) ∧
      ledger t.engine = ledger s.engine ++ [((entry id).appliesTo, (entry id).version)]) ∨
    ∃ failure t, perform engine observers (Ledger.append options entry) s = (.error failure, t) ∧
      ledger t.engine = ledger s.engine := by
  -- What an entry is inserted for is recorded, and nothing else is.
  rcases keeps.prepares (Action.Asks.next options Ledger.tableName Ledger.idName) s with
    ⟨failure, t, failed, drawn⟩ | ⟨id, t, result, drawn⟩
  next => exact .inr ⟨failure, t, perform_bind_error failed, drawn⟩
  next =>
    obtain ⟨u, executed, engine', -⟩ := perform_execute_plain engine passive
      Ledger.insertText (entry id).params t
    cases reply : (engine.execute Ledger.insertText (entry id).params t.engine).1 with
    | error failure =>
      rw [reply] at executed
      have kept := keeps.refused (entry id) t.engine failure reply
      refine .inr ⟨_, u, (perform_bind_ok result).trans (perform_bind_error executed), ?_⟩
      rw [engine', kept, drawn]
    | ok rows =>
      rw [reply] at executed
      have added := keeps.inserted (entry id) t.engine rows reply
      refine .inl ⟨id, u, (perform_bind_ok result).trans (perform_bind_ok executed), ?_⟩
      rw [engine', added, drawn]

namespace Request

theorem migrate_of_fault {r : Request} {fault : RequestFault} (h : r.fault? = some fault)
    (options : Options) : r.migrate options = throw (.request fault) := by
  rw [Request.migrate, h]

theorem migrate_of_accepted {r : Request} (h : r.fault? = none) (options : Options) :
    r.migrate options = (do
      Ledger.ensure
      let current ← Ledger.version r.appliesTo
      if r.isApplied current then pure (.alreadyApplied current) else r.apply options) := by
  rw [Request.migrate, h]

end Request

def recordedEntry : Except Failure Outcome → Option LedgerEntry
  | .ok outcome => outcome.recorded
  | .error _ => none

/-- The ledger grows by the recorded entry only, and that is of a later version than all before. -/
structure Advances (ledger : σ → List (String × String)) (r : Request) (s : Session σ)
    (out : Except Failure Outcome × Session σ) : Prop where
  grows : ledger out.2.engine =
    ledger s.engine ++ (recordedEntry out.1).toList.map fun e => (e.appliesTo, e.version)
  target : ∀ e ∈ recordedEntry out.1, e.appliesTo = r.appliesTo ∧ e.version = r.version
  later : (recordedEntry out.1).isSome = true →
    Version.compare (Version.latest (versionsOf r.appliesTo (ledger s.engine))) r.version = .lt

namespace Advances

variable {r : Request} {s t : Session σ}

theorem of_error (failure : Failure) (same : ledger t.engine = ledger s.engine) :
    Advances ledger r s (.error failure, t) :=
  ⟨by simp [recordedEntry, same], by simp [recordedEntry], by simp [recordedEntry]⟩

theorem of_applied (version : String) (same : ledger t.engine = ledger s.engine) :
    Advances ledger r s (.ok (.alreadyApplied version), t) :=
  ⟨by simp [recordedEntry, Outcome.recorded, same], by simp [recordedEntry, Outcome.recorded],
    by simp [recordedEntry, Outcome.recorded]⟩

end Advances

theorem KeepsLedger.advances_append (keeps : KeepsLedger engine ledger)
    (passive : ∀ o ∈ observers, o.IsPassive) (options : Options) (r : Request)
    (outcome : LedgerEntry → Outcome) (recorded : ∀ e, (outcome e).recorded = some e)
    {s t : Session σ} (same : ledger t.engine = ledger s.engine)
    (later : Version.compare (Version.latest (versionsOf r.appliesTo (ledger s.engine))) r.version =
      .lt) :
    Advances ledger r s (perform engine observers
      (do let entry ← Ledger.append options r.entry; pure (outcome entry)) t) := by
  -- The entry is the last thing that is written.
  rcases keeps.append_cases passive options r.entry t with
    ⟨id, u, appended, grown⟩ | ⟨failure, u, failed, kept⟩
  next =>
    rw [perform_bind_ok appended, perform_pure]
    refine ⟨?_, ?_, fun _ => later⟩
    next =>
      rw [grown, same]
      simp [recordedEntry, recorded, Request.entry]
    next => simp [recordedEntry, recorded, Request.entry]
  next =>
    rw [perform_bind_error failed]
    exact .of_error failure (kept.trans same)

theorem KeepsLedger.advances_apply (keeps : KeepsLedger engine ledger)
    (passive : ∀ o ∈ observers, o.IsPassive) (options : Options) (r : Request) {s t : Session σ}
    (same : ledger t.engine = ledger s.engine)
    (later : Version.compare (Version.latest (versionsOf r.appliesTo (ledger s.engine))) r.version =
      .lt) :
    Advances ledger r s (perform engine observers (r.apply options) t) := by
  rw [Request.apply]
  rcases keeps.prepares (Action.Asks.isThere (Table.named options r.appliesTo)) t with
    ⟨failure, u, failed, kept⟩ | ⟨there, u, looked, kept⟩
  next =>
    rw [perform_bind_error failed]
    exact .of_error failure (kept.trans same)
  next =>
    rw [perform_bind_ok looked]
    -- Whether it alters or creates, the statements before the entry leave the ledger alone.
    cases there with
    | true =>
      rcases keeps.prepares (Action.Asks.alter r (Table.named options r.appliesTo)) u with
        ⟨failure, w, failed, altered⟩ | ⟨⟨added, changed⟩, w, done, altered⟩
      next =>
        rw [if_pos rfl, perform_bind_error failed]
        exact .of_error failure (altered.trans (kept.trans same))
      next =>
        rw [if_pos rfl, perform_bind_ok done]
        exact keeps.advances_append passive options r (.altered added changed) (fun _ => rfl)
          (altered.trans (kept.trans same)) later
    | false =>
      rcases keeps.prepares (Action.Asks.create (Table.named options r.appliesTo) r.add) u with
        ⟨failure, w, failed, created⟩ | ⟨_, w, done, created⟩
      next =>
        rw [if_neg (by decide), perform_bind_error failed]
        exact .of_error failure (created.trans (kept.trans same))
      next =>
        rw [if_neg (by decide), perform_bind_ok done]
        exact keeps.advances_append passive options r .created (fun _ => rfl)
          (created.trans (kept.trans same)) later

theorem KeepsLedger.advances_migrate (keeps : KeepsLedger engine ledger)
    (passive : ∀ o ∈ observers, o.IsPassive) (options : Options) (r : Request) (s : Session σ) :
    Advances ledger r s (perform engine observers (r.migrate options) s) := by
  rw [Request.migrate]
  cases r.fault? with
  | some fault => exact .of_error (.request fault) rfl
  | none =>
    -- The ledger is as it was until the gate has let the request through.
    rcases keeps.prepares Action.Asks.ensureLedger s with
      ⟨failure, t, failed, kept⟩ | ⟨_, t, ensured, kept⟩
    next =>
      rw [perform_bind_error failed]
      exact .of_error failure kept
    next =>
      rw [perform_bind_ok ensured]
      rcases keeps.prepares (Action.Asks.version r.appliesTo) t with
        ⟨failure, u, failed, read⟩ | ⟨current, u, known, read⟩
      next =>
        rw [perform_bind_error failed]
        exact .of_error failure (read.trans kept)
      next =>
        have latest := (keeps.version_eq passive known).1
        rw [perform_bind_ok known]
        rw [kept] at latest
        by_cases applied : r.isApplied current = true
        next =>
          rw [if_pos applied]
          exact .of_applied current (read.trans kept)
        next =>
          rw [if_neg applied]
          -- The gate is what makes the recorded version later than the latest one.
          refine keeps.advances_apply passive options r (read.trans kept) ?_
          simpa [Request.isApplied, latest] using applied

end OracleSql
