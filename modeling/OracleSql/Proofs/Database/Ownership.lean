import OracleSql.Proofs.Database.Shared

set_option autoImplicit false

namespace OracleSql

section Unowned

variable {σ : Type} {engine : Engine σ} {observers : List Observer} {held : σ → Holdings}
  {likes : String → String → Bool}

theorem Holdings.any_isNamed_iff (likes : String → String → Bool) (h : Holdings)
    (kind : ObjectKind) (name : String) :
    h.objects.any (OwnedObject.isNamed likes kind ⟨none, name⟩) = true ↔
      ∃ owner, ⟨owner, kind, name⟩ ∈ h.objects := by
  rw [List.any_eq_true]
  constructor
  next =>
    rintro ⟨⟨owner, k, n⟩, member, named⟩
    simp only [OwnedObject.isNamed, ObjectName.admits, Option.all_none, Bool.and_true,
      Bool.and_eq_true, beq_iff_eq] at named
    obtain ⟨rfl, rfl⟩ := named
    exact ⟨owner, member⟩
  next =>
    rintro ⟨owner, member⟩
    exact ⟨_, member, by simp [OwnedObject.isNamed, ObjectName.admits]⟩

theorem Ledger.exists_sends_create (engine : Engine σ) (passive : ∀ o ∈ observers, o.IsPassive)
    (s : Session σ) : ∃ later out t, Session.Sends engine observers
      (do Action.perform createTableText; Action.perform createSequenceText; Action.rememberLedger) s
      (createTableText :: later) out t := by
  rcases replies : engine.execute createTableText [] s.engine with ⟨_ | _, x⟩
  all_goals obtain ⟨t, made, reached, -⟩ := Session.Sends.perform passive replies
  next => exact ⟨[], _, t, made.bind_error⟩
  next =>
    rcases replies' : engine.execute createSequenceText [] t.engine with ⟨_ | _, y⟩
    all_goals obtain ⟨u, added, -, -⟩ := Session.Sends.perform passive replies'
    next => exact ⟨_, _, u, made.bind added.bind_error⟩
    next => exact ⟨_, _, _, made.bind (added.bind (.rememberLedger u))⟩

theorem Ledger.exists_sends_ensure (shows : ShowsCatalog engine held likes)
    (passive : ∀ o ∈ observers, o.IsPassive) {s : Session σ} (unknown : s.ledgerKnown = false) :
    ∃ sent out t, Session.Sends engine observers Ledger.ensure s sent out t ∧
      (createTableText ∈ sent ↔
        ∀ owner, ⟨owner, .table, tableName⟩ ∉ (held s.engine).objects) := by
  have asked : Session.Sends engine observers Action.ledgerKnown s [] (.ok false) s :=
    ⟨by rw [Session.perform_ledgerKnown, unknown], (List.append_nil _).symm⟩
  have other : createTableText ≠ Catalog.countText name .table :=
    ne_of_startsWith startsWith_createTableText
      (startsWith_other (startsWith_countText _ _) rfl rfl)
  have found := (held s.engine).any_isNamed_iff likes .table tableName
  obtain ⟨t, looked, -, -⟩ := shows.sends_has passive .table name s
  rw [show name = ⟨none, tableName⟩ from rfl] at looked other
  cases there : (held s.engine).objects.any (OwnedObject.isNamed likes .table ⟨none, tableName⟩) with
  | true =>
    rw [there] at looked found
    refine ⟨_, _, _, asked.bind (looked.bind (.rememberLedger t)), ?_⟩
    simpa [other] using found
  | false =>
    rw [there] at looked found
    obtain ⟨later, out, u, created⟩ := exists_sends_create engine passive t
    refine ⟨_, out, u, asked.bind (looked.bind created), ?_⟩
    simpa using found

theorem Holdings.perm_own_iff (h : Holdings) (user name : String) :
    ((h.columns.filter fun c => c.table == name).map OwnedColumn.column).Perm
        ((h.columns.filter fun c => c.owner == user && c.table == name).map OwnedColumn.column) ↔
      ∀ c ∈ h.columns, c.table = name → c.owner = user := by
  rw [← List.filter_filter]
  constructor
  next =>
    intro same c member named
    have length := same.length_eq
    rw [List.length_map, List.length_map, eq_comm, List.length_filter_eq_length_iff] at length
    exact eq_of_beq (length c (List.mem_filter.2 ⟨member, beq_iff_eq.2 named⟩))
  next =>
    intro own
    have all : ∀ c ∈ h.columns.filter fun c => c.table == name, (c.owner == user) = true := by
      intro c member
      obtain ⟨member, named⟩ := List.mem_filter.1 member
      exact beq_iff_eq.2 (own c member (eq_of_beq named))
    rw [List.filter_eq_self.2 all]

/-- Objects, columns and the ledger are looked for with all owners. For a user that is right as long
as nobody else has what the user has not. -/
structure SeesEveryOwner (engine : Engine σ) (observers : List Observer) (h : Holdings)
    (user name : String) (s : Session σ) : Prop where
  finds : ∀ kind, ∃ there,
    (Session.perform engine observers (Catalog.has kind ⟨none, name⟩) s).1 = .ok there ∧
      (there = true ↔ ∃ owner, ⟨owner, kind, name⟩ ∈ h.objects)
  rightly : ∀ kind, (Session.perform engine observers (Catalog.has kind ⟨none, name⟩) s).1 =
      .ok (decide (⟨user, kind, name⟩ ∈ h.objects)) ↔
    ⟨user, kind, name⟩ ∈ h.objects ∨ ∀ owner, ⟨owner, kind, name⟩ ∉ h.objects
  lists : ∃ columns : List Column,
    (Session.perform engine observers (Catalog.columns ⟨none, name⟩) s).1 = .ok columns ∧
      columns.Perm ((h.columns.filter fun c => c.table == name).map OwnedColumn.column) ∧
      (columns.Perm ((h.columns.filter fun c => c.owner == user && c.table == name).map
          OwnedColumn.column) ↔
        ∀ c ∈ h.columns, c.table = name → c.owner = user)
  boots : s.ledgerKnown = false → ∃ sent,
    (Session.perform engine observers Ledger.ensure s).2.statements = s.statements ++ sent ∧
      (Ledger.createTableText ∈ sent ↔ ∀ owner, ⟨owner, .table, Ledger.tableName⟩ ∉ h.objects)

/-- A name without an owner is the session's own, but the catalog is not asked so. -/
theorem Catalog.reads_unowned (shows : ShowsCatalog engine held likes)
    (passive : ∀ o ∈ observers, o.IsPassive) (user name : String) (s : Session σ) :
    SeesEveryOwner engine observers (held s.engine) user name s where
  finds kind := by
    obtain ⟨t, looked, -, -⟩ := shows.sends_has passive kind ⟨none, name⟩ s
    exact ⟨_, congrArg Prod.fst looked.performs, (held s.engine).any_isNamed_iff likes kind name⟩
  rightly kind := by
    obtain ⟨t, looked, -, -⟩ := shows.sends_has passive kind ⟨none, name⟩ s
    have found := (held s.engine).any_isNamed_iff likes kind name
    rw [looked.performs, Except.ok.injEq, Bool.eq_iff_iff, found, decide_eq_true_iff]
    constructor
    next =>
      intro same
      by_cases own : ⟨user, kind, name⟩ ∈ (held s.engine).objects
      next => exact .inl own
      next => exact .inr fun owner there => own (same.1 ⟨owner, there⟩)
    next =>
      rintro (own | nobody)
      next => exact ⟨fun _ => own, fun _ => ⟨user, own⟩⟩
      next => exact ⟨fun ⟨owner, there⟩ => absurd there (nobody owner), fun own => ⟨user, own⟩⟩
  lists := by
    obtain ⟨t, columns, read, -, -, all, -⟩ := shows.sends_columns passive ⟨none, name⟩ s
    have every : OwnedColumn.isNamed likes ⟨none, name⟩ = fun c => c.table == name := by
      funext c
      simp [OwnedColumn.isNamed, ObjectName.admits]
    rw [every] at all
    refine ⟨columns, congrArg Prod.fst read.performs, all, ?_⟩
    rw [← (held s.engine).perm_own_iff]
    exact ⟨fun own => all.symm.trans own, fun own => all.trans own⟩
  boots unknown := by
    obtain ⟨sent, out, t, ensured, made⟩ := Ledger.exists_sends_ensure shows passive unknown
    refine ⟨sent, ?_, made⟩
    rw [ensured.performs]
    exact ensured.statements

end Unowned

def foreignLedger : Shared where
  objects := [⟨"HR", .table, Ledger.tableName⟩]
  columns := [⟨⟨"HR", Ledger.tableName, ⟨"id", "NUMBER", 1, some 22, none, some 10, false, true⟩⟩,
    by decide⟩]
  drawn := 0

theorem reads_foreignLedger :
    ShowsCatalog (Shared.engine "APP") Shared.held Shared.likes ∧
      (∀ o ∈ ([] : List Observer), o.IsPassive) ∧
      SeesEveryOwner (Shared.engine "APP") [] foreignLedger.held "APP" Ledger.tableName
        (Session.start foreignLedger) :=
  ⟨Shared.showsCatalog "APP", List.forall_mem_nil _,
    Catalog.reads_unowned (Shared.showsCatalog "APP") (List.forall_mem_nil _) "APP" Ledger.tableName
      (Session.start foreignLedger)⟩

theorem foreign_ledger_taken :
    ⟨"APP", .table, Ledger.tableName⟩ ∉ foreignLedger.held.objects ∧
      (Session.perform (Shared.engine "APP") [] (Catalog.has .table ⟨none, Ledger.tableName⟩)
        (Session.start foreignLedger)).1 = .ok true ∧
      (Session.perform (Shared.engine "APP") [] (Catalog.columns ⟨none, Ledger.tableName⟩)
        (Session.start foreignLedger)).1 =
          .ok [⟨"id", "NUMBER", 1, some 22, none, some 10, false, true⟩] ∧
      Ledger.createTableText ∉ (Session.perform (Shared.engine "APP") [] Ledger.ensure
        (Session.start foreignLedger)).2.statements := by
  have shows := Shared.showsCatalog "APP"
  have passive : ∀ o ∈ ([] : List Observer), o.IsPassive := List.forall_mem_nil _
  refine ⟨by decide, ?_, ?_, ?_⟩
  next =>
    obtain ⟨t, looked, -, -⟩ := shows.sends_has passive .table ⟨none, Ledger.tableName⟩
      (Session.start foreignLedger)
    rw [looked.performs]
    rfl
  next =>
    obtain ⟨t, columns, read, -, -, all, -⟩ := shows.sends_columns passive ⟨none, Ledger.tableName⟩
      (Session.start foreignLedger)
    rw [read.performs]
    exact congrArg Except.ok (List.perm_singleton.1 all)
  next =>
    obtain ⟨sent, out, t, ensured, made⟩ := Ledger.exists_sends_ensure shows passive
      (s := Session.start foreignLedger) rfl
    rw [ensured.performs, ensured.statements]
    exact fun there => made.1 there "HR" List.mem_cons_self

end OracleSql
