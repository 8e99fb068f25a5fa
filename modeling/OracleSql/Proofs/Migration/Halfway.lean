import OracleSql.Proofs.Migration.Service
import OracleSql.Proofs.Schema.Resumption

set_option autoImplicit false

namespace OracleSql

open Session

namespace Reading

variable {σ κ : Type} [DecidableEq κ] (R : Reading σ κ)

def booted (c : Contents κ) : κ → Option Database.Table :=
  if (c.tables (R.place Ledger.name)).isSome then c.tables
  else Function.update c.tables (R.place Ledger.name) (some R.ledgerTable)

/-- The ledger is there, or can be made; it is there once it was `seen`. -/
structure Booting (seen : Bool) (rows : List LedgerEntry) (ready : κ → Option Database.Table)
    (c : Contents κ) (known : Bool) : Prop where
  sound : seen = true ∨ known = true → (c.tables (R.place Ledger.name)).isSome = true
  bootable : c.tables (R.place Ledger.name) = none → c.sequences Ledger.bootSequence = false
  rows_eq : c.rows = rows
  booted_eq : R.booted c = ready

/-- From here the request still leads to the same tables, and nothing was entered yet. -/
structure Halfway (seen : Bool) (n : ObjectName) (requested : List Attribute)
    (rows : List LedgerEntry) (goal : κ → Option Database.Table) (c : Contents κ)
    (known : Bool) : Prop where
  booting : R.Booting seen rows (R.booted c) c known
  aims : ∃ t, ColumnDiff.Brings R.report R.Holds n requested (R.booted c (R.place n)) t ∧
    goal = Function.update (R.booted c) (R.place n) (some t)

/-- The tables are as they should be, and only the entry is missing. -/
structure Arrived (seen : Bool) (n : ObjectName) (requested : List Attribute)
    (rows : List LedgerEntry) (goal : κ → Option Database.Table) (s : Session σ) : Prop where
  halfway : R.Halfway seen n requested rows goal (R.contents s.engine) s.ledgerKnown
  known : s.ledgerKnown = true
  tables_eq : (R.contents s.engine).tables = goal

def Entered (r : Request) (rows : List LedgerEntry) (goal : κ → Option Database.Table)
    (outcome : Outcome) (s : Session σ) : Prop :=
  ∃ id, outcome.recorded = some (r.entry id) ∧ (R.contents s.engine).tables = goal ∧
    (R.contents s.engine).rows = rows ++ [r.entry id]

variable {R} {n : ObjectName} {requested : List Attribute} {rows : List LedgerEntry}
  {ready goal : κ → Option Database.Table} {c : Contents κ} {seen known : Bool}

theorem booted_of_isSome (there : (c.tables (R.place Ledger.name)).isSome = true) :
    R.booted c = c.tables :=
  if_pos there

theorem isSome_withTable (place : κ) {place' : κ} (there : (c.tables place').isSome = true)
    (t : Database.Table) : ((c.withTable place (some t)).tables place').isSome = true := by
  simp only [Contents.tables_withTable, Function.update_apply]
  split
  next => rfl
  next => exact there

omit [DecidableEq κ] in
theorem Entered.not_wasApplied {r : Request} {outcome : Outcome} {s : Session σ}
    (h : R.Entered r rows goal outcome s) : outcome.wasApplied = false := by
  obtain ⟨id, recorded, -⟩ := h
  rw [← Bool.not_eq_true, ← Outcome.recorded_eq_none_iff, recorded]
  exact Option.some_ne_none _

namespace Booting

theorem of_isSome (there : (c.tables (R.place Ledger.name)).isSome = true) (rows_eq : c.rows = rows)
    (tables_eq : c.tables = ready) (known : Bool) : R.Booting seen rows ready c known := by
  refine ⟨fun _ => there, fun absent => ?_, rows_eq, (booted_of_isSome there).trans tables_eq⟩
  rw [absent] at there
  cases there

theorem tables_eq (h : R.Booting seen rows ready c known)
    (there : (c.tables (R.place Ledger.name)).isSome = true) : c.tables = ready :=
  (booted_of_isSome there).symm.trans h.booted_eq

theorem withLedger (h : R.Booting seen rows ready c known)
    (absent : c.tables (R.place Ledger.name) = none) (known' : Bool) :
    R.Booting seen rows ready (c.withTable (R.place Ledger.name) (some R.ledgerTable)) known' := by
  have ready_eq := h.booted_eq
  rw [booted, absent, Option.isSome_none, if_neg Bool.false_ne_true] at ready_eq
  exact .of_isSome (c := c.withTable (R.place Ledger.name) (some R.ledgerTable)) (by simp)
    h.rows_eq ready_eq known'

end Booting

namespace Halfway

theorem of_booting {c' : Contents κ} {known' : Bool}
    (h : R.Halfway seen n requested rows goal c known)
    (start : R.Booting seen rows (R.booted c) c' known') :
    R.Halfway seen n requested rows goal c' known' := by
  obtain ⟨-, aims⟩ := h
  rw [← start.booted_eq] at aims start
  exact ⟨start, aims⟩

theorem exists_brings (h : R.Halfway seen n requested rows goal c known)
    (there : (c.tables (R.place Ledger.name)).isSome = true) :
    ∃ t, ColumnDiff.Brings R.report R.Holds n requested (c.tables (R.place n)) t ∧
      goal = Function.update c.tables (R.place n) (some t) := by
  have aims := h.aims
  rwa [booted_of_isSome there] at aims

theorem of_sound (h : R.Halfway seen n requested rows goal c known) {seen' known' : Bool}
    (sound : seen' = true ∨ known' = true → (c.tables (R.place Ledger.name)).isSome = true) :
    R.Halfway seen' n requested rows goal c known' :=
  ⟨⟨sound, h.booting.bootable, h.booting.rows_eq, h.booting.booted_eq⟩, h.aims⟩

theorem unseen (h : R.Halfway seen n requested rows goal c known) :
    R.Halfway false n requested rows goal c false :=
  h.of_sound (by simp)

theorem counting_iff : R.counting.Halfway seen n requested rows goal c known ↔
    R.Halfway seen n requested rows goal c known := by
  have holds : R.counting.Holds = R.Holds := funext fun _ => propext R.holds_counting
  constructor
  next =>
    rintro ⟨⟨sound, bootable, rows_eq, booted_eq⟩, aims⟩
    rw [holds] at aims
    exact ⟨⟨sound, bootable, rows_eq, booted_eq⟩, aims⟩
  next =>
    rintro ⟨⟨sound, bootable, rows_eq, booted_eq⟩, aims⟩
    rw [← holds] at aims
    exact ⟨⟨sound, bootable, rows_eq, booted_eq⟩, aims⟩

-- Any step after which the request brings about the same table leads on.
theorem withTable (h : R.Halfway seen n requested rows goal c known)
    (there : (c.tables (R.place Ledger.name)).isSome = true) {t : Database.Table}
    (next : ∀ t', ColumnDiff.Brings R.report R.Holds n requested (c.tables (R.place n)) t' →
      ColumnDiff.Brings R.report R.Holds n requested (some t) t') :
    R.Halfway seen n requested rows goal (c.withTable (R.place n) (some t)) known := by
  have still := isSome_withTable (R.place n) there t
  obtain ⟨t', brings, goal_eq⟩ := h.exists_brings there
  refine ⟨.of_isSome still h.booting.rows_eq (booted_of_isSome still).symm known, t', ?_, ?_⟩
  next =>
    rw [booted_of_isSome still, Contents.tables_withTable, Function.update_self]
    exact next t' brings
  next => rw [booted_of_isSome still, Contents.tables_withTable, Function.update_idem, goal_eq]

end Halfway

namespace Serves

variable {engine : Engine σ} {observers : List Observer} {options : Options} {r : Request}
  {faults : Set EngineError} {s : Session σ} (serves : R.Serves engine options r faults)
  (passive : ∀ o ∈ observers, o.IsPassive) (loud : ∀ e ∈ faults, e.isNotFound = false)

include serves passive loud

theorem leads_ensure (start : R.Booting seen rows ready (R.contents s.engine) s.ledgerKnown) :
    R.Leads engine observers faults Ledger.ensure s (R.Booting seen rows ready)
      fun _ t => R.Booting seen rows ready (R.contents t.engine) t.ledgerKnown ∧
        t.ledgerKnown = true := by
  have remembered {u : Session σ} (there : (R.tables u.engine Ledger.name).isSome = true)
      (rows_eq : (R.contents u.engine).rows = rows)
      (tables_eq : (R.contents u.engine).tables = ready) :
      R.Leads engine observers faults Action.rememberLedger u (R.Booting seen rows ready)
        fun _ t => R.Booting seen rows ready (R.contents t.engine) t.ledgerKnown ∧
          t.ledgerKnown = true :=
    .done (perform_rememberLedger u) ⟨.of_isSome there rows_eq tables_eq true, rfl⟩
  rw [Ledger.ensure]
  refine .after_ok (perform_ledgerKnown s) ?_
  by_cases known : s.ledgerKnown = true
  next =>
    rw [if_pos known]
    exact .pure ⟨start, known⟩
  next =>
    rw [if_neg known]
    refine (serves.leads_hasTable passive loud start Ledger.name).bind ?_
    rintro there t ⟨same, rfl⟩
    have now := same.keeps start
    cases ledger : R.tables s.engine Ledger.name with
    | some found =>
      have there : (R.tables t.engine Ledger.name).isSome = true := by
        rw [same.tables, ledger]
        rfl
      exact remembered there now.rows_eq (now.tables_eq there)
    | none =>
      have absent : R.tables t.engine Ledger.name = none := by rw [same.tables, ledger]
      refine (Leads.makes passive (serves.makesLedger t.engine absent) now).bind ?_
      rintro _ u ⟨made, -⟩
      have created := now.withLedger absent u.ledgerKnown
      rw [← made] at created
      have there : (R.tables u.engine Ledger.name).isSome = true := by
        rw [tables, made]
        simp
      have free : (R.contents u.engine).sequences Ledger.bootSequence = false := by
        rw [made]
        exact now.bootable absent
      rw [Ledger.createSequenceText_eq]
      refine (Leads.makes passive (serves.makesSequence _ u.engine free) created).bind ?_
      rintro _ v ⟨made, -⟩
      have tables_eq := created.tables_eq there
      have rows_eq := created.rows_eq
      refine remembered ?_ ?_ ?_
      next =>
        rw [tables, made]
        exact there
      next =>
        rw [made]
        exact rows_eq
      next =>
        rw [made]
        exact tables_eq

variable (distinct : ((Attribute.stored requested).map Attribute.name).Nodup)
  (faithful : IsFaithful R.report)

omit serves passive loud in
include distinct faithful in
theorem arrived_of_brings
    (start : R.Halfway seen n requested rows goal (R.contents s.engine) s.ledgerKnown)
    (known : s.ledgerKnown = true) {t' : Database.Table}
    (brings : ColumnDiff.Brings R.report R.Holds n requested (R.tables s.engine n) t')
    {u : Session σ}
    (made : R.contents u.engine = (R.contents s.engine).withTable (R.place n) (some t'))
    (same : u.ledgerKnown = s.ledgerKnown) : R.Arrived seen n requested rows goal u := by
  have ledger := start.booting.sound (.inr known)
  refine ⟨?_, same.trans known, ?_⟩
  next =>
    rw [made, same]
    refine start.withTable ledger fun t'' h => ?_
    cases h.unique brings
    exact h.again distinct faithful
  next =>
    obtain ⟨t'', h, goal_eq⟩ := start.exists_brings ledger
    cases h.unique brings
    rw [made, goal_eq, Contents.tables_withTable]

include distinct faithful

theorem arrives_alter (asked : r.add = requested) {table : Table}
    (own : table.name = n) {t : Database.Table}
    (start : R.Halfway seen n requested rows goal (R.contents s.engine) s.ledgerKnown)
    (known : s.ledgerKnown = true) (there : R.tables s.engine n = some t) :
    R.Leads engine observers faults (r.alter table) s (R.Halfway seen n requested rows goal)
      fun _ u => R.Arrived seen n requested rows goal u := by
  subst asked own
  obtain ⟨t', brings, -⟩ := start.exists_brings (start.booting.sound (.inr known))
  rw [show (R.contents s.engine).tables _ = some t from there] at brings
  cases brings with
  | @alters _ middle _ adds heldAdded modifies held =>
    refine (serves.leads_columns passive loud start there).bind ?_
    rintro existing u ⟨same, rfl⟩
    have now := same.keeps start
    have there' := (same.tables table.name).trans there
    refine (serves.leads_alter passive now (SchemaChange.alters_addColumns ..) there' adds
      heldAdded).bind ?_
    rintro _ v ⟨made, known'⟩
    have added : R.Halfway seen table.name r.add rows goal (R.contents v.engine) v.ledgerKnown := by
      rw [made, known']
      refine now.withTable (now.booting.sound (.inr (same.known.trans known))) fun t'' h => ?_
      rw [show (R.contents u.engine).tables _ = some t from there'] at h
      exact h.of_added distinct faithful adds
    have there'' : R.tables v.engine table.name = some middle := by
      rw [tables, made, Contents.tables_withTable, Function.update_self]
    have left : ColumnDiff.Brings R.report R.Holds table.name r.add
        (R.tables v.engine table.name) t' := by
      rw [there'']
      exact (ColumnDiff.Brings.alters adds heldAdded modifies held).of_added distinct faithful adds
    have arrives (w : Session σ)
        (modified : R.contents w.engine =
          (R.contents v.engine).withTable (R.place table.name) (some t'))
        (same' : w.ledgerKnown = v.ledgerKnown) : R.Arrived seen table.name r.add rows goal w :=
      arrived_of_brings distinct faithful added (known'.trans (same.known.trans known)) left
        modified same'
    by_cases none : (ColumnDiff.between r.add t.columns).change.isEmpty = true
    next =>
      rw [if_pos none]
      rw [List.isEmpty_iff.1 none] at modifies
      cases modifies
      exact .pure (arrives v (Contents.withTable_self there'').symm rfl)
    next =>
      rw [if_neg none]
      refine (serves.leads_alter passive added (SchemaChange.alters_modifyColumns ..) there''
        modifies held).bind ?_
      exact fun _ w made => .pure (arrives w made.1 made.2)

omit loud in
theorem arrives_create {table : Table} (own : table.name = n)
    (start : R.Halfway seen n requested rows goal (R.contents s.engine) s.ledgerKnown)
    (known : s.ledgerKnown = true) (absent : R.tables s.engine n = none) :
    R.Leads engine observers faults (table.create requested) s
      (R.Halfway seen n requested rows goal) fun _ u => R.Arrived seen n requested rows goal u := by
  subst own
  obtain ⟨t', brings, -⟩ := start.exists_brings (start.booting.sound (.inr known))
  rw [show (R.contents s.engine).tables _ = none from absent] at brings
  have aimed : ColumnDiff.Brings R.report R.Holds table.name requested
      (R.tables s.engine table.name) t' := by
    rw [absent]
    exact brings
  cases brings with
  | creates columns accepted held =>
    rw [Table.create, columns, if_neg Bool.false_ne_true]
    exact (serves.leads_createTable passive start absent accepted held).mono_post fun _ u made =>
      arrived_of_brings distinct faithful start known aimed made.1 made.2

omit distinct faithful

theorem leads_ensureSequence (schema : options.schema = none) (name : String)
    (start : R.Arrived seen n requested rows goal s) :
    R.Leads engine observers faults (Identity.ensure options name) s
      (R.Halfway seen n requested rows goal) fun _ t => R.Arrived seen n requested rows goal t ∧
        (R.contents t.engine).sequences name = true := by
  rw [Identity.ensure, schema]
  refine (serves.leads_hasSequence passive loud start.halfway name).bind ?_
  rintro there t ⟨same, rfl⟩
  have now : R.Arrived seen n requested rows goal t :=
    ⟨same.keeps start.halfway, same.known.trans start.known, by rw [same.contents, start.tables_eq]⟩
  cases sequence : (R.contents s.engine).sequences name with
  | true => exact .pure ⟨now, by rw [same.contents, sequence]⟩
  | false =>
    have absent : (R.contents t.engine).sequences name = false := by rw [same.contents, sequence]
    refine (serves.leads_createSequence passive now.halfway absent).mono_post ?_
    rintro _ u ⟨made, known⟩
    have ledger := now.halfway.booting.sound (.inr now.known)
    refine ⟨⟨?_, known.trans now.known, ?_⟩, ?_⟩
    next =>
      rw [made]
      exact now.halfway.of_booting (.of_isSome (c := (R.contents t.engine).withSequence name) ledger
        now.halfway.booting.rows_eq (booted_of_isSome ledger).symm u.ledgerKnown)
    next => rw [made, Contents.tables_withSequence, now.tables_eq]
    next => rw [made, Contents.sequences_withSequence, Function.update_self]

theorem leads_append (schema : options.schema = none)
    (start : R.Arrived seen n requested rows goal s) :
    R.Leads engine observers faults (Ledger.append options r.entry) s
      (R.Halfway seen n requested rows goal) fun e t => ∃ id, e = r.entry id ∧
        (R.contents t.engine).tables = goal ∧
        (R.contents t.engine).rows = rows ++ [r.entry id] := by
  rw [Ledger.append, Identity.next, bind_assoc]
  refine (serves.leads_ensureSequence passive loud schema _ start).bind ?_
  rintro _ t ⟨now, sequence⟩
  rw [bind_assoc]
  have ledger := now.halfway.booting.sound (.inr now.known)
  refine (Leads.execute passive (serves.draws t.engine ledger sequence) now.halfway).bind ?_
  rintro drawn u ⟨⟨same, id, drawn, inserts⟩, known⟩
  rw [drawn, Action.expect_some_bind]
  have still : R.Halfway seen n requested rows goal (R.contents u.engine) u.ledgerKnown :=
    Same.keeps ⟨same, known⟩ now.halfway
  refine (Leads.execute passive inserts still).bind ?_
  rintro _ v ⟨made, -⟩
  refine .pure ⟨id, rfl, ?_, ?_⟩
  next => rw [made, same, Contents.withRow, now.tables_eq]
  next => rw [made, same, Contents.withRow, now.halfway.booting.rows_eq]

theorem leads_enter (schema : options.schema = none) {outcome : LedgerEntry → Outcome}
    (recorded : ∀ e, (outcome e).recorded = some e)
    (start : R.Arrived seen n requested rows goal s) :
    R.Leads engine observers faults
      (do let e ← Ledger.append options r.entry; pure (outcome e)) s
      (R.Halfway seen n requested rows goal) (R.Entered r rows goal) := by
  refine (serves.leads_append passive loud schema start).bind ?_
  rintro _ t ⟨id, rfl, tables, rows⟩
  exact .pure ⟨id, recorded _, tables, rows⟩

include distinct faithful

/-- From anywhere on the way the migration gets to its end, unless it is interrupted again. -/
theorem leads_migrate (schema : options.schema = none) (accepted : r.fault? = none)
    (asked : r.add = requested) (own : (Table.named options r.appliesTo).name = n)
    (gate : r.isApplied (Version.latest (R.listed rows r.appliesTo)) = false)
    (start : R.Halfway seen n requested rows goal (R.contents s.engine) s.ledgerKnown) :
    R.Leads engine observers faults (r.migrate options) s (R.Halfway seen n requested rows goal)
      (R.Entered r rows goal) := by
  rw [Request.migrate_of_accepted accepted]
  have boots := (serves.leads_ensure passive loud start.booting).mono
    (fun _ _ => start.of_booting) fun _ _ ensured => ensured
  refine boots.bind ?_
  rintro _ t ⟨booting, known⟩
  have ensured := start.of_booting booting
  refine (serves.leads_version passive ensured r.appliesTo (booting.sound (.inr known))).bind ?_
  rintro current u ⟨same, rfl⟩
  have now := same.keeps ensured
  rw [booting.rows_eq, gate, if_neg Bool.false_ne_true, Request.apply]
  refine (serves.leads_hasTable passive loud now (Table.named options r.appliesTo).name).bind ?_
  rintro there v ⟨same', rfl⟩
  have now := same'.keeps now
  have known := same'.known.trans (same.known.trans known)
  rw [own, ← same'.tables n]
  -- A table that an earlier attempt has made is altered, and then nothing is left to be done to it.
  cases target : R.tables v.engine n with
  | some t =>
    rw [Option.isSome_some, if_pos rfl]
    refine (serves.arrives_alter passive loud distinct faithful asked own now known target).bind ?_
    exact fun counts w arrived => serves.leads_enter passive loud schema (fun _ => rfl) arrived
  | none =>
    rw [Option.isSome_none, if_neg Bool.false_ne_true, asked]
    refine (serves.arrives_create passive distinct faithful own now known target).bind ?_
    exact fun _ w arrived => serves.leads_enter passive loud schema (fun _ => rfl) arrived

end Serves

-- Without faults it does not matter where an action stops.
def Anywhere (_ : Contents κ) (_ : Bool) : Prop :=
  True

theorem isNotFound_of_mem_empty : ∀ e ∈ (∅ : Set EngineError), e.isNotFound = false :=
  fun e fault => absurd fault (Set.notMem_empty e)

namespace Serves

variable {engine : Engine σ} {observers : List Observer} {options : Options} {r : Request}
  {s u : Session σ} (serves : R.Serves engine options r ∅) (passive : ∀ o ∈ observers, o.IsPassive)

include serves passive

theorem bootable_of_ensured (ensured : perform engine observers Ledger.ensure s = (.ok (), u))
    (unknown : s.ledgerKnown = false) (absent : R.tables s.engine Ledger.name = none) :
    (R.contents s.engine).sequences Ledger.bootSequence = false := by
  have start : Anywhere (R.contents s.engine) s.ledgerKnown := trivial
  rw [Ledger.ensure, perform_bind_ok (perform_ledgerKnown s), unknown,
    if_neg Bool.false_ne_true] at ensured
  obtain ⟨there, t, looked, ensured⟩ := exists_of_perform_bind ensured
  obtain ⟨same, rfl⟩ := (serves.leads_hasTable passive isNotFound_of_mem_empty start Ledger.name).reached looked
  rw [absent] at ensured
  obtain ⟨_, v, created, ensured⟩ := exists_of_perform_bind ensured
  have missing : R.tables t.engine Ledger.name = none := (same.tables _).trans absent
  have start : Anywhere (R.contents t.engine) t.ledgerKnown := trivial
  obtain ⟨made, -⟩ :=
    (Leads.makes passive (serves.makesLedger t.engine missing) start).reached created
  obtain ⟨_, w, drawn, -⟩ := exists_of_perform_bind ensured
  -- The second statement would have been refused.
  by_contra present
  obtain ⟨e, refused⟩ := serves.refusesSequence Ledger.bootSequence v.engine (by
    rw [made, Contents.sequences_withTable, same.contents]
    simpa using present)
  rw [← Ledger.createSequenceText_eq] at refused
  exact not_performed passive refused drawn

variable (distinct : ((Attribute.stored r.add).map Attribute.name).Nodup)

include distinct

theorem exists_brings_of_altered {table : Table} {t : Database.Table} {counts : Nat × Nat}
    (there : R.tables s.engine table.name = some t)
    (altered : perform engine observers (r.alter table) s = (.ok counts, u)) :
    ∃ t', ColumnDiff.Brings R.report R.Holds table.name r.add (some t) t' := by
  have start : Anywhere (R.contents s.engine) s.ledgerKnown := trivial
  obtain ⟨existing, v, read, altered⟩ := exists_of_perform_bind altered
  obtain ⟨same, rfl⟩ := (serves.leads_columns passive isNotFound_of_mem_empty start there).reached read
  obtain ⟨_, w, added, altered⟩ := exists_of_perform_bind altered
  obtain ⟨middle, adds, first⟩ := ColumnDiff.exists_added R.report distinct t
  have there := (same.tables table.name).trans there
  have alters := SchemaChange.alters_addColumns R.report table.name r.add t.columns
  have heldAdded := serves.held_of_alter passive alters there adds added
  have start : Anywhere (R.contents v.engine) v.ledgerKnown := trivial
  obtain ⟨made, -⟩ := (serves.leads_alter passive start alters there adds heldAdded).reached added
  obtain ⟨t', modifies, -⟩ := ColumnDiff.exists_modified distinct first
  refine ⟨t', .alters adds heldAdded modifies ?_⟩
  by_cases none : (ColumnDiff.between r.add t.columns).change.isEmpty = true
  next =>
    rw [List.isEmpty_iff.1 none] at modifies
    cases modifies
    exact heldAdded
  next =>
    rw [if_neg none] at altered
    obtain ⟨_, x, modified, -⟩ := exists_of_perform_bind altered
    have there : R.tables w.engine table.name = some middle := by
      rw [tables, made, Contents.tables_withTable, Function.update_self]
    exact serves.held_of_alter passive (SchemaChange.alters_modifyColumns ..) there modifies
      modified

theorem exists_brings_of_applied {outcome : Outcome}
    (applied : perform engine observers (r.apply options) s = (.ok outcome, u)) :
    ∃ t', ColumnDiff.Brings R.report R.Holds (Table.named options r.appliesTo).name r.add
      (R.tables s.engine (Table.named options r.appliesTo).name) t' := by
  have start : Anywhere (R.contents s.engine) s.ledgerKnown := trivial
  obtain ⟨there, v, looked, applied⟩ := exists_of_perform_bind applied
  obtain ⟨same, rfl⟩ := (serves.leads_hasTable passive isNotFound_of_mem_empty start _).reached looked
  rw [← same.tables] at applied ⊢
  cases target : R.tables v.engine (Table.named options r.appliesTo).name with
  | some t =>
    rw [target, Option.isSome_some, if_pos rfl] at applied
    obtain ⟨counts, w, altered, -⟩ := exists_of_perform_bind applied
    exact serves.exists_brings_of_altered passive distinct target altered
  | none =>
    rw [target, Option.isSome_none, if_neg Bool.false_ne_true] at applied
    obtain ⟨_, w, created, -⟩ := exists_of_perform_bind applied
    rw [Table.create] at created
    cases columns : r.add.isEmpty with
    | true =>
      rw [if_pos columns] at created
      cases created
    | false =>
      rw [columns, if_neg Bool.false_ne_true] at created
      obtain ⟨t, accepted, -⟩ := ColumnDiff.exists_columns R.report distinct _
      have held := serves.held_of_createTable passive target accepted created
      exact ⟨_, .creates columns accepted held⟩

theorem halfway_of_migrated {outcome : Outcome}
    (sound : s.ledgerKnown = true → (R.tables s.engine Ledger.name).isSome = true)
    (migrated : perform engine observers (r.migrate options) s = (.ok outcome, u))
    (fresh : outcome.wasApplied = false) :
    r.fault? = none ∧
      r.isApplied (Version.latest (R.listed (R.contents s.engine).rows r.appliesTo)) = false ∧
      ∃ goal, R.Halfway false (Table.named options r.appliesTo).name r.add
        (R.contents s.engine).rows goal (R.contents s.engine) s.ledgerKnown := by
  cases refused : r.fault? with
  | some fault =>
    rw [Request.migrate_of_fault refused] at migrated
    cases migrated
  | none =>
    rw [Request.migrate_of_accepted refused] at migrated
    obtain ⟨_, t, ensured, migrated⟩ := exists_of_perform_bind migrated
    have bootable (absent : R.tables s.engine Ledger.name = none) :
        (R.contents s.engine).sequences Ledger.bootSequence = false := by
      refine serves.bootable_of_ensured passive ensured ?_ absent
      by_contra known
      have there := sound (by simpa using known)
      rw [absent] at there
      cases there
    have start : R.Booting false (R.contents s.engine).rows (R.booted (R.contents s.engine))
        (R.contents s.engine) s.ledgerKnown :=
      ⟨fun known => sound (by simpa using known), bootable, rfl, rfl⟩
    obtain ⟨booting, known⟩ := (serves.leads_ensure passive isNotFound_of_mem_empty start).reached ensured
    have ledger := booting.sound (.inr known)
    obtain ⟨current, v, read, migrated⟩ := exists_of_perform_bind migrated
    obtain ⟨same, rfl⟩ :=
      (serves.leads_version passive booting r.appliesTo ledger).reached read
    rw [booting.rows_eq] at migrated
    cases gate : r.isApplied
        (Version.latest (R.listed (R.contents s.engine).rows r.appliesTo)) with
    | true =>
      rw [if_pos gate] at migrated
      cases migrated
      cases fresh
    | false =>
      rw [gate, if_neg Bool.false_ne_true] at migrated
      obtain ⟨t', brings⟩ := serves.exists_brings_of_applied passive distinct migrated
      rw [same.tables, tables, booting.tables_eq ledger] at brings
      exact ⟨rfl, rfl, _, start, t', brings, rfl⟩

end Serves

end Reading

end OracleSql
