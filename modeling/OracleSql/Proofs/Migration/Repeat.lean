import OracleSql.Proofs.Migration.Ledger

set_option autoImplicit false

namespace OracleSql

open Session

variable {σ : Type} {engine : Engine σ} {observers : List Observer}
  {ledger : σ → List (String × String)} {s t u : Session σ}

structure OnlyReads (ledger : σ → List (String × String)) (s t : Session σ) : Prop where
  same : ledger t.engine = ledger s.engine
  reads : ∃ sqls, t.statements = s.statements ++ sqls ∧
    ∀ sql ∈ sqls, Text.startsWith "SELECT " sql = true

namespace OnlyReads

theorem refl : OnlyReads ledger s s :=
  ⟨rfl, [], by simp, by simp⟩

theorem trans (h : OnlyReads ledger s t) (k : OnlyReads ledger t u) : OnlyReads ledger s u := by
  obtain ⟨same, first, texts, reads⟩ := h
  obtain ⟨same', second, texts', reads'⟩ := k
  refine ⟨same'.trans same, first ++ second, ?_, ?_⟩
  next => rw [texts', texts, List.append_assoc]
  next =>
    intro sql member
    exact (List.mem_append.1 member).elim (reads sql) (reads' sql)

end OnlyReads

theorem KeepsLedger.query (keeps : KeepsLedger engine ledger)
    (passive : ∀ o ∈ observers, o.IsPassive) {sql : String} {params : List Value} {rows : List Row}
    (read : Text.startsWith "SELECT " sql = true)
    (reply : (engine.execute sql params s.engine).1 = .ok rows) :
    ∃ t, perform engine observers (Action.execute sql params none) s = (.ok rows, t) ∧
      OnlyReads ledger s t := by
  obtain ⟨t, executed, engine', texts, -⟩ := perform_execute_plain engine passive sql params s
  rw [reply] at executed
  refine ⟨t, executed, ?_, [sql], texts, by simpa using read⟩
  rw [engine', keeps.preparing sql params s.engine (.query read)]

theorem KeepsLedger.ensure (keeps : KeepsLedger engine ledger)
    (passive : ∀ o ∈ observers, o.IsPassive) (some : ledger s.engine ≠ []) :
    ∃ t, perform engine observers Ledger.ensure s = (.ok (), t) ∧ OnlyReads ledger s t := by
  rw [Ledger.ensure, perform_bind_ok (perform_ledgerKnown s)]
  by_cases known : s.ledgerKnown = true
  next =>
    rw [if_pos known]
    exact ⟨s, rfl, .refl⟩
  next =>
    obtain ⟨rows, count, reply, counted, positive⟩ := keeps.found s.engine some
    obtain ⟨t, executed, reads⟩ := keeps.query passive (startsWith_countText _ _) reply
    have there : perform engine observers (Catalog.has .table ⟨none, Ledger.tableName⟩) s =
        (.ok true, t) := by
      refine perform_orNotFound_ok ((perform_bind_ok executed).trans ?_)
      rw [counted, ← decide_eq_true positive]
      rfl
    -- Entries are found only in a table that is there, so nothing is created.
    rw [if_neg known, perform_bind_ok there, if_pos rfl]
    exact ⟨_, rfl, reads.trans ⟨rfl, [], by simp [statements], by simp⟩⟩

theorem KeepsLedger.version (keeps : KeepsLedger engine ledger)
    (passive : ∀ o ∈ observers, o.IsPassive) (appliesTo : String) (some : ledger s.engine ≠ []) :
    ∃ t, perform engine observers (Ledger.version appliesTo) s =
        (.ok (Version.latest (versionsOf appliesTo (ledger s.engine))), t) ∧
      OnlyReads ledger s t := by
  obtain ⟨rows, reply⟩ := keeps.answers appliesTo s.engine some
  obtain ⟨t, executed, reads⟩ := keeps.query passive startsWith_versionsText reply
  refine ⟨t, (perform_bind_ok executed).trans ?_, reads⟩
  rw [keeps.versions appliesTo s.engine rows reply]
  rfl

inductive IsAlreadyApplied : Except Failure Outcome → Prop where
  | intro (version : String) : IsAlreadyApplied (.ok (.alreadyApplied version))

theorem not_isAlreadyApplied_apply (engine : Engine σ) (observers : List Observer)
    (options : Options) (r : Request) (s : Session σ) :
    ¬IsAlreadyApplied (perform engine observers (r.apply options) s).1 := by
  intro applied
  cases result : perform engine observers (r.apply options) s with
  | mk out t =>
    rw [result] at applied
    cases applied with
    | intro version =>
      -- Both branches end with an entry, which is another outcome.
      obtain ⟨there, u, -, result⟩ := exists_of_perform_bind result
      cases there with
      | true =>
        obtain ⟨counts, w, -, result⟩ := exists_of_perform_bind result
        obtain ⟨entry, x, -, result⟩ := exists_of_perform_bind result
        cases result
      | false =>
        obtain ⟨_, w, -, result⟩ := exists_of_perform_bind result
        obtain ⟨entry, x, -, result⟩ := exists_of_perform_bind result
        cases result

theorem KeepsLedger.migrate_applied_iff (keeps : KeepsLedger engine ledger)
    (passive : ∀ o ∈ observers, o.IsPassive) (options : Options) (r : Request)
    (some : ledger s.engine ≠ []) :
    (IsAlreadyApplied (perform engine observers (r.migrate options) s).1 ↔ r.fault? = none ∧
      Version.compare (Version.latest (versionsOf r.appliesTo (ledger s.engine))) r.version ≠ .lt) ∧
    (IsAlreadyApplied (perform engine observers (r.migrate options) s).1 →
      OnlyReads ledger s (perform engine observers (r.migrate options) s).2) := by
  -- With entries in the ledger, whether a version was applied is decided by the latest one.
  rw [Request.migrate]
  cases refused : r.fault? with
  | some fault =>
    have never : ¬IsAlreadyApplied (perform engine observers
        (throw (.request fault) : Action Outcome) s).1 := by
      rintro ⟨⟩
    have refuses : Option.some fault ≠ none := Option.some_ne_none fault
    exact ⟨⟨fun h => absurd h never, fun h => absurd h.1 refuses⟩, fun h => absurd h never⟩
  | none =>
    obtain ⟨t, ensured, first⟩ := keeps.ensure passive some
    obtain ⟨u, known, second⟩ := keeps.version passive r.appliesTo (s := t) (by rwa [first.same])
    rw [perform_bind_ok ensured, perform_bind_ok known, first.same]
    by_cases applied : r.isApplied (Version.latest (versionsOf r.appliesTo (ledger s.engine))) = true
    next =>
      rw [if_pos applied]
      have later : Version.compare (Version.latest (versionsOf r.appliesTo (ledger s.engine)))
          r.version ≠ .lt := by simpa [Request.isApplied] using applied
      exact ⟨⟨fun _ => ⟨rfl, later⟩, fun _ => .intro _⟩, fun _ => first.trans second⟩
    next =>
      rw [if_neg applied]
      have earlier : ¬Version.compare (Version.latest (versionsOf r.appliesTo (ledger s.engine)))
          r.version ≠ .lt := by simpa [Request.isApplied] using applied
      have never := not_isAlreadyApplied_apply engine observers options r u
      exact ⟨⟨fun h => absurd h never, fun h => absurd h.2 earlier⟩, fun h => absurd h never⟩

structure MigrateCall where
  options : Options
  request : Request
  inTransaction : Bool
  ledgerKnown : Bool

def MigrateCall.run (engine : Engine σ) (observers : List Observer) (c : MigrateCall) (x : σ) :
    Except Failure Outcome × Session σ :=
  perform engine observers (c.request.migrate c.options) ⟨x, c.inTransaction, c.ledgerKnown, []⟩

theorem KeepsLedger.advances_run (keeps : KeepsLedger engine ledger)
    (passive : ∀ o ∈ observers, o.IsPassive) (c : MigrateCall) (x : σ) :
    Advances ledger c.request ⟨x, c.inTransaction, c.ledgerKnown, []⟩ (c.run engine observers x) := by
  rw [MigrateCall.run]
  exact keeps.advances_migrate passive c.options c.request _

theorem KeepsLedger.run_applied_iff (keeps : KeepsLedger engine ledger)
    (passive : ∀ o ∈ observers, o.IsPassive) (c : MigrateCall) {x : σ} (some : ledger x ≠ []) :
    (IsAlreadyApplied (c.run engine observers x).1 ↔ c.request.fault? = none ∧
      Version.compare (Version.latest (versionsOf c.request.appliesTo (ledger x)))
        c.request.version ≠ .lt) ∧
    (IsAlreadyApplied (c.run engine observers x).1 →
      ledger (c.run engine observers x).2.engine = ledger x ∧
        ∀ sql ∈ (c.run engine observers x).2.statements, Text.startsWith "SELECT " sql = true) := by
  obtain ⟨decided, quiet⟩ := keeps.migrate_applied_iff passive c.options c.request
    (s := ⟨x, c.inTransaction, c.ledgerKnown, []⟩) some
  rw [show perform engine observers (c.request.migrate c.options)
    ⟨x, c.inTransaction, c.ledgerKnown, []⟩ = c.run engine observers x from rfl] at decided quiet
  refine ⟨decided, fun applied => ?_⟩
  obtain ⟨same, sqls, texts, reads⟩ := quiet applied
  refine ⟨same, fun sql member => reads sql ?_⟩
  rw [texts] at member
  simpa [statements] using member

def MigrateCall.runAll (engine : Engine σ) (observers : List Observer) :
    List MigrateCall → σ → List (Except Failure Outcome) × σ
  | [], x => ([], x)
  | c :: rest, x =>
      let first := c.run engine observers x
      let later := runAll engine observers rest first.2.engine
      (first.1 :: later.1, later.2)

theorem MigrateCall.runAll_cons {c : MigrateCall} {x : σ} {out : Except Failure Outcome}
    (first : c.run engine observers x = (out, t)) (rest : List MigrateCall) :
    runAll engine observers (c :: rest) x =
      (out :: (runAll engine observers rest t.engine).1,
        (runAll engine observers rest t.engine).2) := by
  rw [runAll, first]

theorem MigrateCall.runAll_cons_snd (c : MigrateCall) (rest : List MigrateCall) (x : σ) :
    (runAll engine observers (c :: rest) x).2 =
      (runAll engine observers rest (c.run engine observers x).2.engine).2 := by
  rw [runAll]

def recordedVersions (appliesTo : String) (outs : List (Except Failure Outcome)) : List String :=
  versionsOf appliesTo ((outs.filterMap recordedEntry).map fun e => (e.appliesTo, e.version))

theorem versionsOf_append (appliesTo : String) (a b : List (String × String)) :
    versionsOf appliesTo (a ++ b) = versionsOf appliesTo a ++ versionsOf appliesTo b := by
  simp [versionsOf]

theorem recordedVersions_cons (appliesTo : String) (out : Except Failure Outcome)
    (outs : List (Except Failure Outcome)) : recordedVersions appliesTo (out :: outs) =
      recordedVersions appliesTo [out] ++ recordedVersions appliesTo outs := by
  rw [recordedVersions, recordedVersions, recordedVersions, ← versionsOf_append, ← List.map_append,
    ← List.filterMap_append, List.singleton_append]

/-- The latest version is the one that was recorded last. -/
structure Ascends (appliesTo : String) (before after : List (String × String))
    (recorded : List String) : Prop where
  grows : versionsOf appliesTo after = versionsOf appliesTo before ++ recorded
  chain : (Version.latest (versionsOf appliesTo before) :: recorded).IsChain
    fun a b => Version.compare a b = .lt
  last : Version.latest (versionsOf appliesTo after) =
    recorded.getLastD (Version.latest (versionsOf appliesTo before))

namespace Ascends

variable {appliesTo : String} {a b c : List (String × String)} {first second : List String}

theorem of_same (appliesTo : String) (ledger : List (String × String)) :
    Ascends appliesTo ledger ledger [] :=
  ⟨by simp, .singleton _, rfl⟩

theorem trans (h : Ascends appliesTo a b first) (k : Ascends appliesTo b c second) :
    Ascends appliesTo a c (first ++ second) := by
  refine ⟨?_, ?_, ?_⟩
  next => rw [k.grows, h.grows, List.append_assoc]
  next =>
    rw [← List.cons_append]
    have chain := List.isChain_cons.1 k.chain
    refine List.isChain_append.2 ⟨h.chain, chain.2, fun v last w next => ?_⟩
    -- The second chain starts where the first one ends.
    have ends : v = Version.latest (versionsOf appliesTo b) := by
      rw [h.last, List.getLastD_eq_getLast?]
      simpa [List.getLast?_cons, eq_comm] using last
    rw [ends]
    exact chain.1 w next
  next =>
    rw [k.last, h.last]
    simp only [List.getLastD_eq_getLast?, List.getLast?_append]
    cases second.getLast? <;> rfl

theorem ne_nil (h : Ascends appliesTo a b first) (some : versionsOf appliesTo a ++ first ≠ []) :
    b ≠ [] := by
  rintro rfl
  exact some h.grows.symm

end Ascends

theorem Advances.ascends {r : Request} {out : Except Failure Outcome × Session σ}
    (h : Advances ledger r s out) (appliesTo : String) :
    Ascends appliesTo (ledger s.engine) (ledger out.2.engine)
      (recordedVersions appliesTo [out.1]) := by
  obtain ⟨grows, target, later⟩ := h
  rw [grows]
  cases entry : recordedEntry out.1 with
  | none =>
    have none : recordedVersions appliesTo [out.1] = [] := by
      simp [recordedVersions, entry, versionsOf]
    simpa [none] using Ascends.of_same appliesTo (ledger s.engine)
  | some e =>
    obtain ⟨own, version⟩ := target e entry
    have appended : recordedVersions appliesTo [out.1] =
        versionsOf appliesTo [(e.appliesTo, e.version)] := by simp [recordedVersions, entry]
    rw [appended]
    show Ascends appliesTo _ (ledger s.engine ++ [(e.appliesTo, e.version)]) _
    by_cases same : e.appliesTo = appliesTo
    next =>
      have single : versionsOf appliesTo [(e.appliesTo, e.version)] = [e.version] := by
        simp [versionsOf, same]
      -- The gate compared with the latest version for this very table.
      have above := later (by rw [entry]; rfl)
      rw [← own, same, ← version] at above
      rw [single]
      refine ⟨?_, ?_, ?_⟩
      next => rw [versionsOf_append, single]
      next => exact List.isChain_cons_cons.2 ⟨above, .singleton _⟩
      next =>
        rw [versionsOf_append, single]
        exact Version.latest_append above
    next =>
      -- An entry for another table is not among the versions of this one.
      have none : versionsOf appliesTo [(e.appliesTo, e.version)] = [] := by
        simp [versionsOf, same]
      rw [none]
      refine ⟨?_, .singleton _, ?_⟩
      next => rw [versionsOf_append, none]
      next =>
        rw [versionsOf_append, none, List.append_nil]
        rfl

theorem KeepsLedger.ascends (keeps : KeepsLedger engine ledger)
    (passive : ∀ o ∈ observers, o.IsPassive) (appliesTo : String) (calls : List MigrateCall) (x : σ) :
    Ascends appliesTo (ledger x) (ledger (MigrateCall.runAll engine observers calls x).2)
      (recordedVersions appliesTo (MigrateCall.runAll engine observers calls x).1) := by
  -- Each call starts from the engine that the one before has left.
  induction calls generalizing x with
  | nil => exact .of_same appliesTo (ledger x)
  | cons c rest ih =>
    have first := (keeps.advances_run passive c x).ascends appliesTo
    rw [MigrateCall.runAll, recordedVersions_cons]
    exact first.trans (ih _)

theorem KeepsLedger.ascends_recorded (keeps : KeepsLedger engine ledger)
    (passive : ∀ o ∈ observers, o.IsPassive) {first : MigrateCall} {x y : σ}
    (recorded : (recordedEntry (first.run engine observers x).1).isSome = true)
    {between : List MigrateCall} {outs : List (Except Failure Outcome)}
    (middle : MigrateCall.runAll engine observers between (first.run engine observers x).2.engine =
      (outs, y)) :
    Ascends first.request.appliesTo (ledger x) (ledger y)
      (first.request.version :: recordedVersions first.request.appliesTo outs) := by
  -- The first call makes its version the latest one, and the others go on from there.
  have start := keeps.advances_run passive first x
  obtain ⟨e, entry⟩ := Option.isSome_iff_exists.1 recorded
  obtain ⟨own, version⟩ := start.target e entry
  have single : recordedVersions first.request.appliesTo [(first.run engine observers x).1] =
      [first.request.version] := by
    simp [recordedVersions, versionsOf, entry, own, version]
  have opened := start.ascends first.request.appliesTo
  rw [single] at opened
  have ascended := keeps.ascends passive first.request.appliesTo between
    (first.run engine observers x).2.engine
  rw [middle] at ascended
  exact opened.trans ascended

/-- A version that was recorded is left alone when it is asked for again, unless the versions
recorded in between lead back below it. Versions of numbers only never do. -/
theorem KeepsLedger.repeated_applied_iff (keeps : KeepsLedger engine ledger)
    (passive : ∀ o ∈ observers, o.IsPassive) {first again : MigrateCall} {x y : σ}
    (recorded : (recordedEntry (first.run engine observers x).1).isSome = true)
    {between : List MigrateCall} {outs : List (Except Failure Outcome)}
    (middle : MigrateCall.runAll engine observers between (first.run engine observers x).2.engine =
      (outs, y))
    (sameTable : again.request.appliesTo = first.request.appliesTo)
    (sameVersion : again.request.version = first.request.version) :
    (IsAlreadyApplied (again.run engine observers y).1 ↔ again.request.fault? = none ∧
      Version.compare ((recordedVersions first.request.appliesTo outs).getLastD
        first.request.version) first.request.version ≠ .lt) ∧
    (IsAlreadyApplied (again.run engine observers y).1 →
      ledger (again.run engine observers y).2.engine = ledger y ∧
        ∀ sql ∈ (again.run engine observers y).2.statements,
          Text.startsWith "SELECT " sql = true) ∧
    (first.request.version :: recordedVersions first.request.appliesTo outs).IsChain
      (fun a b => Version.compare a b = .lt) ∧
    ((∀ v ∈ first.request.version :: recordedVersions first.request.appliesTo outs,
        Version.IsNumeric v) →
      (IsAlreadyApplied (again.run engine observers y).1 ↔ again.request.fault? = none)) := by
  -- From the first call on every recorded version is later than the one before it.
  have ascended := keeps.ascends_recorded passive recorded middle
  have chain := (List.isChain_cons_cons.1 ascended.chain).2
  have top := ascended.last
  rw [List.getLastD_cons] at top
  have some : ledger y ≠ [] := ascended.ne_nil (by simp)
  obtain ⟨decided, quiet⟩ := keeps.run_applied_iff passive again some
  -- So the gate of the last call compares with the last version recorded in between.
  rw [sameTable, sameVersion, top] at decided
  exact ⟨decided, quiet, chain, fun numeric => decided.trans
    (and_iff_left (Version.not_lt_of_isChain numeric chain))⟩

def ledgerEngine : Engine (List (String × String)) where
  execute sql params entries :=
    if sql = Ledger.insertText then
      match params with
      | [_, .text appliesTo, _, .text version, _] => (.ok [], entries ++ [(appliesTo, version)])
      | _ => (.ok [], entries)
    else if sql = Ledger.versionsText then
      match params with
      | [.text appliesTo] =>
          (.ok ((versionsOf appliesTo entries).map fun v => [("version", .text v)]), entries)
      | _ => (.ok [], entries)
    else (.ok [[("count", .int 1), ("name", .text "id"), ("resultId", .int 1)]], entries)
  hook _ entries := (.ok (), entries)

def plainRequest (version : String) : Request :=
  ⟨"t", none, none, version, [], [], []⟩

def plainCall (version : String) : MigrateCall :=
  ⟨.empty, plainRequest version, false, false⟩

theorem Preparing.ne_insertText {sql : String} (h : Preparing sql) : sql ≠ Ledger.insertText :=
  (ne_of_startsWith startsWith_insertText h.not_inserts).symm

namespace ledgerEngine

theorem execute_versions (appliesTo : String) (entries : List (String × String)) :
    ledgerEngine.execute Ledger.versionsText [.text appliesTo] entries =
      (.ok ((versionsOf appliesTo entries).map fun v => [("version", .text v)]), entries) := by
  have other : Ledger.versionsText ≠ Ledger.insertText :=
    (Preparing.query startsWith_versionsText).ne_insertText
  simp [ledgerEngine, other]

theorem execute_other {sql : String} (insert : sql ≠ Ledger.insertText)
    (versions : sql ≠ Ledger.versionsText) (params : List Value) (entries : List (String × String)) :
    ledgerEngine.execute sql params entries =
      (.ok [[("count", .int 1), ("name", .text "id"), ("resultId", .int 1)]], entries) := by
  simp [ledgerEngine, insert, versions]

theorem execute_count (n : ObjectName) (kind : ObjectKind) (params : List Value)
    (entries : List (String × String)) :
    ledgerEngine.execute (Catalog.countText n kind) params entries =
      (.ok [[("count", .int 1), ("name", .text "id"), ("resultId", .int 1)]], entries) := by
  have insert := (Preparing.query (startsWith_countText n kind)).ne_insertText
  have versions : Catalog.countText n kind ≠ Ledger.versionsText :=
    ne_of_startsWith (startsWith_count_countText n kind) (startsWith_literal rfl)
  exact execute_other insert versions params entries

theorem text?_version (version : String) :
    Row.text? [("version", .text version)] "version" = some version := rfl

theorem performs (sql : String) (params : List Value) (s : Session (List (String × String))) :
    ∃ t, perform ledgerEngine [] (Action.execute sql params none) s =
        (Action.engineResult (ledgerEngine.execute sql params s.engine).1, t) ∧
      t.engine = (ledgerEngine.execute sql params s.engine).2 := by
  obtain ⟨t, executed, engine', -⟩ := perform_execute_plain ledgerEngine (List.forall_mem_nil _)
    sql params s
  exact ⟨t, executed, engine'⟩

theorem performs_has (kind : ObjectKind) (n : ObjectName) (s : Session (List (String × String))) :
    ∃ t, perform ledgerEngine [] (Catalog.has kind n) s = (.ok true, t) ∧ t.engine = s.engine := by
  obtain ⟨t, executed, same⟩ := performs (Catalog.countText n kind)
    (.text n.name :: Catalog.ownerParams n) s
  rw [execute_count] at executed same
  exact ⟨t, perform_orNotFound_ok ((perform_bind_ok executed).trans rfl), same⟩

theorem performs_ensure (s : Session (List (String × String))) :
    ∃ t, perform ledgerEngine [] Ledger.ensure s = (.ok (), t) ∧ t.engine = s.engine := by
  rw [Ledger.ensure, perform_bind_ok (perform_ledgerKnown s)]
  by_cases known : s.ledgerKnown = true
  next =>
    rw [if_pos known]
    exact ⟨s, rfl, rfl⟩
  next =>
    obtain ⟨t, there, same⟩ := performs_has .table ⟨none, Ledger.tableName⟩ s
    rw [if_neg known, perform_bind_ok there]
    exact ⟨_, rfl, same⟩

theorem performs_version (appliesTo : String) (s : Session (List (String × String))) :
    ∃ t, perform ledgerEngine [] (Ledger.version appliesTo) s =
        (.ok (Version.latest (versionsOf appliesTo s.engine)), t) ∧ t.engine = s.engine := by
  obtain ⟨t, executed, same⟩ := performs Ledger.versionsText [.text appliesTo] s
  rw [execute_versions] at executed same
  refine ⟨t, (perform_bind_ok executed).trans ?_, same⟩
  simp [List.filterMap_map, Function.comp_def, text?_version]

theorem performs_columns (table : ObjectName) (s : Session (List (String × String))) :
    ∃ columns t, perform ledgerEngine [] (Catalog.columns table) s = (.ok columns, t) ∧
      t.engine = s.engine := by
  have insert := (Preparing.query (startsWith_columnsText table)).ne_insertText
  have versions : Catalog.columnsText table ≠ Ledger.versionsText :=
    ne_of_startsWith (startsWith_column_columnsText table) (startsWith_literal rfl)
  obtain ⟨t, executed, same⟩ := performs (Catalog.columnsText table)
    (.text table.name :: .text table.name :: Catalog.ownerParams table) s
  rw [execute_other insert versions] at executed same
  exact ⟨_, t, perform_orNotFound_ok ((perform_bind_ok executed).trans rfl), same⟩

theorem performs_next (options : Options) (s : Session (List (String × String))) :
    ∃ t, perform ledgerEngine [] (Identity.next options Ledger.tableName Ledger.idName) s =
        (.ok 1, t) ∧ t.engine = s.engine := by
  have insert := (Preparing.query (startsWith_nextText
    (Identity.sequence options Ledger.tableName Ledger.idName))).ne_insertText
  obtain ⟨t, there, same⟩ := performs_has .sequence
    ⟨options.schema, Identity.sequence options Ledger.tableName Ledger.idName⟩ s
  obtain ⟨u, executed, same'⟩ := performs
    (Identity.nextText (Identity.sequence options Ledger.tableName Ledger.idName)) [] t
  rw [execute_other insert (Identity.nextText_ne_versionsText _)] at executed same'
  have ensured : perform ledgerEngine [] (Identity.ensure options
      (Identity.sequence options Ledger.tableName Ledger.idName)) s = (.ok (), t) :=
    (perform_bind_ok there).trans rfl
  exact ⟨u, (perform_bind_ok ensured).trans ((perform_bind_ok executed).trans rfl), same'.trans same⟩

end ledgerEngine

theorem keepsLedger_ledgerEngine : KeepsLedger ledgerEngine id where
  preparing sql params x h := by
    simp only [ledgerEngine, if_neg h.ne_insertText]
    split
    next => split <;> rfl
    next => rfl
  inserted e x rows _ := by
    simp [ledgerEngine, LedgerEntry.params]
  refused e x error h := by
    simp [ledgerEngine, LedgerEntry.params] at h
  versions appliesTo x rows h := by
    rw [ledgerEngine.execute_versions] at h
    cases h
    simp [List.filterMap_map, Function.comp_def, ledgerEngine.text?_version]
  answers appliesTo x _ := ⟨_, congrArg Prod.fst (ledgerEngine.execute_versions appliesTo x)⟩
  found x _ := ⟨_, 1, congrArg Prod.fst (ledgerEngine.execute_count _ _ _ x), rfl, by decide⟩

theorem performs_migrate {options : Options} {r : Request}
    (accepted : r.fault? = none) (nothing : r.add = []) (s : Session (List (String × String)))
    (above : Version.compare (Version.latest (versionsOf r.appliesTo s.engine)) r.version = .lt) :
    (perform ledgerEngine [] (r.migrate options) s).1 = .ok (.altered 0 0 (r.entry 1)) := by
  obtain ⟨t, ensured, kept⟩ := ledgerEngine.performs_ensure s
  obtain ⟨u, known, -⟩ := ledgerEngine.performs_version r.appliesTo t
  obtain ⟨w, there, -⟩ := ledgerEngine.performs_has .table (Table.named options r.appliesTo).name u
  obtain ⟨columns, x, read, -⟩ :=
    ledgerEngine.performs_columns (Table.named options r.appliesTo).name w
  obtain ⟨y, drawn, -⟩ := ledgerEngine.performs_next options x
  obtain ⟨z, inserted, -⟩ := ledgerEngine.performs Ledger.insertText (r.entry 1).params y
  -- Seven statements, each of which the engine answers.
  have gate : r.isApplied (Version.latest (versionsOf r.appliesTo t.engine)) = false := by
    rw [kept]
    simp [Request.isApplied, above]
  have looked : perform ledgerEngine [] (Table.named options r.appliesTo).isThere u =
      (.ok true, w) := there
  have altered : perform ledgerEngine [] (r.alter (.named options r.appliesTo)) w =
      (.ok (0, 0), x) := by
    refine (perform_bind_ok read).trans ?_
    rw [nothing]
    rfl
  have appended : perform ledgerEngine [] (Ledger.append options r.entry) x =
      (.ok (r.entry 1), z) :=
    (perform_bind_ok drawn).trans ((perform_bind_ok inserted).trans rfl)
  rw [Request.migrate_of_accepted accepted, perform_bind_ok ensured, perform_bind_ok known, gate,
    if_neg Bool.false_ne_true, Request.apply, perform_bind_ok looked, if_pos rfl,
    perform_bind_ok altered]
  show (perform ledgerEngine [] (Ledger.append options r.entry >>= _) x).1 = _
  rw [perform_bind_ok appended]
  rfl

theorem exists_run_ledgerEngine (c : MigrateCall) (entries : List (String × String))
    (accepted : c.request.fault? = none) (nothing : c.request.add = [])
    (above : Version.compare (Version.latest (versionsOf c.request.appliesTo entries))
      c.request.version = .lt) :
    ∃ t, c.run ledgerEngine [] entries = (.ok (.altered 0 0 (c.request.entry 1)), t) ∧
      t.engine = entries ++ [(c.request.appliesTo, c.request.version)] := by
  obtain ⟨t, result⟩ := exists_perform_eq (performs_migrate accepted nothing
    ⟨entries, c.inTransaction, c.ledgerKnown, []⟩ above)
  have outcome : c.run ledgerEngine [] entries = (.ok (.altered 0 0 (c.request.entry 1)), t) := result
  have grown := (keepsLedger_ledgerEngine.advances_run (List.forall_mem_nil _) c entries).grows
  rw [outcome] at grown
  exact ⟨t, outcome, grown⟩

theorem run_plainCall (version : String) (entries : List (String × String))
    (above : Version.compare (Version.latest (versionsOf "t" entries)) version = .lt) :
    ((plainCall version).run ledgerEngine [] entries).1 =
        .ok (.altered 0 0 ⟨1, "t", none, version, none⟩) ∧
      ((plainCall version).run ledgerEngine [] entries).2.engine = entries ++ [("t", version)] := by
  have target : (Text.trim "t").isEmpty = false := by decide +kernel
  have accepted : (plainCall version).request.fault? = none := by
    simp [Request.fault?, plainCall, plainRequest, target]
  obtain ⟨t, outcome, grown⟩ :=
    exists_run_ledgerEngine (plainCall version) entries accepted rfl above
  rw [outcome]
  exact ⟨rfl, grown⟩

theorem repeated_version_left_alone :
    IsAlreadyApplied ((plainCall "1").run ledgerEngine [] [("t", "1"), ("t", "2")]).1 := by
  have first : Version.compare "0.0" "1" = .lt := by
    unfold Version.compare Version.compareSegments; decide +kernel
  have second : Version.compare "1" "2" = .lt := by
    unfold Version.compare Version.compareSegments; decide +kernel
  obtain ⟨out, state⟩ := run_plainCall "1" [] first
  obtain ⟨out', state'⟩ := run_plainCall "2" [("t", "1")] second
  have middle : MigrateCall.runAll ledgerEngine [] [plainCall "2"]
      ((plainCall "1").run ledgerEngine [] []).2.engine =
        ([.ok (.altered 0 0 ⟨1, "t", none, "2", none⟩)], [("t", "1"), ("t", "2")]) := by
    rw [state, List.nil_append, MigrateCall.runAll, MigrateCall.runAll, out', state']
    rfl
  have recorded : (recordedEntry ((plainCall "1").run ledgerEngine [] []).1).isSome = true := by
    rw [out]
    rfl
  have accepted : (plainRequest "1").fault? = none := by decide +kernel
  exact (keepsLedger_ledgerEngine.repeated_applied_iff (List.forall_mem_nil _) recorded middle
    rfl rfl).2.2.2 (by decide +kernel) |>.2 accepted

-- Nine is before ten, ten is before `1a` as a text, and `1a` is before nine as a text.
theorem repeated_version_applied_again : KeepsLedger ledgerEngine id ∧
    (MigrateCall.runAll ledgerEngine [] (["9", "10", "1a", "9"].map plainCall) []).2 =
      [("t", "9"), ("t", "10"), ("t", "1a"), ("t", "9")] := by
  have first : Version.compare "0.0" "9" = .lt := by
    unfold Version.compare Version.compareSegments; decide +kernel
  have second : Version.compare "9" "10" = .lt := by
    unfold Version.compare Version.compareSegments; decide +kernel
  have third : Version.compare "10" "1a" = .lt := by
    unfold Version.compare Version.compareSegments; decide +kernel
  have back : Version.compare "1a" "9" = .lt := by
    unfold Version.compare Version.compareSegments; decide +kernel
  have next (entries : List (String × String)) (before after : String)
      (latest : Version.latest (versionsOf "t" entries) = before)
      (less : Version.compare before after = .lt) :
      ((plainCall after).run ledgerEngine [] entries).2.engine = entries ++ [("t", after)] :=
    (run_plainCall after entries (by rw [latest]; exact less)).2
  -- Ten is the latest of nine and ten, but `1a` comes after ten and before nine.
  have ten : Version.latest ["9", "10"] = "10" := Version.max_eq_right second
  have text : Version.latest (["9", "10"] ++ ["1a"]) = "1a" :=
    Version.latest_append (by rw [ten]; exact third)
  refine ⟨keepsLedger_ledgerEngine, ?_⟩
  have one := next [] "0.0" "9" rfl first
  have two := next [("t", "9")] "9" "10" rfl second
  have three := next [("t", "9"), ("t", "10")] "10" "1a" ten third
  have four := next [("t", "9"), ("t", "10"), ("t", "1a")] "1a" "9" text back
  simp only [List.nil_append, List.cons_append] at one two three four
  rw [List.map_cons, List.map_cons, List.map_cons, List.map_cons, MigrateCall.runAll_cons_snd, one,
    MigrateCall.runAll_cons_snd, two, MigrateCall.runAll_cons_snd, three,
    MigrateCall.runAll_cons_snd, four]
  rfl

end OracleSql
