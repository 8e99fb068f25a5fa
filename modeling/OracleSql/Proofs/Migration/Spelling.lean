import OracleSql.Proofs.Migration.Repeat

set_option autoImplicit false

namespace OracleSql

namespace ObjectName

theorem resolve_cases (name : String) (defaultOwner : Option String) :
    resolve name defaultOwner = ⟨defaultOwner, name⟩ ∨
    ∃ owner rest, resolve name defaultOwner = ⟨some owner, rest⟩ ∧ name = owner ++ "." ++ rest := by
  have parts : name.toList.takeWhile (· != '.') ++ name.toList.dropWhile (· != '.') = name.toList :=
    List.takeWhile_append_dropWhile
  unfold resolve
  simp only
  split
  next c rest found =>
    split
    next => exact .inl rfl
    next =>
      refine .inr ⟨_, _, rfl, String.toList_inj.1 ?_⟩
      rw [found] at parts
      simpa using parts.symm
  next => exact .inl rfl

theorem eq_or_owned_of_resolve_eq {a b : String} {defaultOwner : Option String}
    (same : resolve a defaultOwner = resolve b defaultOwner) :
    a = b ∨ ∃ owner, defaultOwner = some owner ∧
      (a = owner ++ "." ++ b ∨ b = owner ++ "." ++ a) := by
  rcases resolve_cases a defaultOwner with bare | ⟨owner, rest, split, text⟩ <;>
    rcases resolve_cases b defaultOwner with bare' | ⟨owner', rest', split', text'⟩
  next =>
    rw [bare, bare'] at same
    cases same
    exact .inl rfl
  next =>
    rw [bare, split'] at same
    cases same
    exact .inr ⟨owner', rfl, .inr text'⟩
  next =>
    rw [split, bare'] at same
    cases same
    exact .inr ⟨owner, rfl, .inl text⟩
  next =>
    rw [split, split'] at same
    cases same
    exact .inl (text.trans text'.symm)

end ObjectName

open Session

variable {σ : Type} {engine : Engine σ} {observers : List Observer}
  {ledger : σ → List (String × String)}

theorem recordedVersions_eq_nil {appliesTo : String} {out : Except Failure Outcome}
    (other : ∀ e ∈ recordedEntry out, e.appliesTo ≠ appliesTo) :
    recordedVersions appliesTo [out] = [] := by
  cases entry : recordedEntry out with
  | none => simp [recordedVersions, entry, versionsOf]
  | some e => simp [recordedVersions, entry, versionsOf, other e entry]

/-- Once a version of a table was recorded, one that is not higher is left alone if the text for the
table is the same. Under another text for it only what was recorded under that text matters. -/
theorem KeepsLedger.same_table_applied_iff (keeps : KeepsLedger engine ledger)
    (passive : ∀ o ∈ observers, o.IsPassive) {first second : MigrateCall} {x y : σ}
    (recorded : (recordedEntry (first.run engine observers x).1).isSome = true)
    {between : List MigrateCall} {outs : List (Except Failure Outcome)}
    (middle : MigrateCall.runAll engine observers between (first.run engine observers x).2.engine =
      (outs, y))
    (sameOptions : second.options = first.options)
    (sameTable : (Table.named second.options second.request.appliesTo).name =
      (Table.named first.options first.request.appliesTo).name)
    (numeric : ∀ v ∈ second.request.version :: first.request.version ::
      recordedVersions first.request.appliesTo outs, Version.IsNumeric v)
    (notHigher : Version.compare second.request.version first.request.version ≠ .gt)
    (accepted : second.request.fault? = none) :
    (IsAlreadyApplied (second.run engine observers y).1 ↔
      second.request.appliesTo = first.request.appliesTo ∨
      Version.compare (Version.latest (versionsOf second.request.appliesTo (ledger x) ++
        recordedVersions second.request.appliesTo outs)) second.request.version ≠ .lt) ∧
    (second.request.appliesTo = first.request.appliesTo ∨
      ∃ owner, first.options.schema = some owner ∧
        (second.request.appliesTo = owner ++ "." ++ first.request.appliesTo ∨
          first.request.appliesTo = owner ++ "." ++ second.request.appliesTo)) ∧
    (IsAlreadyApplied (second.run engine observers y).1 →
      ledger (second.run engine observers y).2.engine = ledger y ∧
        ∀ sql ∈ (second.run engine observers y).2.statements,
          Text.startsWith "SELECT " sql = true) := by
  have ascended := keeps.ascends_recorded passive recorded middle
  obtain ⟨decided, quiet⟩ := keeps.run_applied_iff passive second (ascended.ne_nil (by simp))
  rw [and_iff_right accepted] at decided
  refine ⟨decided.trans ?_, ?_, quiet⟩
  next =>
    by_cases sameText : second.request.appliesTo = first.request.appliesTo
    next =>
      -- The latest version under this text is not below the first one, and so not below the second.
      rw [List.forall_mem_cons] at numeric
      have top := ascended.last
      rw [List.getLastD_cons] at top
      rw [sameText, top]
      refine iff_of_true ?_ (.inl rfl)
      exact Version.not_lt_getLastD_of_isChain numeric.2 numeric.1
        (List.isChain_cons_cons.1 ascended.chain).2 (Version.compare_ne_lt_iff.2 notHigher)
    next =>
      have start := keeps.advances_run passive first x
      have own := (start.ascends second.request.appliesTo).trans
        (keeps.ascends passive second.request.appliesTo between _)
      rw [middle, recordedVersions_eq_nil, List.nil_append] at own
      next => rw [own.grows, or_iff_right sameText]
      next =>
        intro e entry
        rw [(start.target e entry).1]
        exact Ne.symm sameText
  next =>
    rw [sameOptions] at sameTable
    exact ObjectName.eq_or_owned_of_resolve_eq sameTable

def ownedOptions : Options :=
  { Options.empty with schema := some "HR" }

def employeesCall (appliesTo version : String) : MigrateCall :=
  ⟨ownedOptions, ⟨appliesTo, none, none, version, [], [], []⟩, false, false⟩

theorem same_table_left_alone : IsAlreadyApplied
    ((employeesCall "Employees" "1.0").run ledgerEngine [] [("Employees", "2.0")]).1 := by
  have less : Version.compare "0.0" "2.0" = .lt := by
    unfold Version.compare Version.compareSegments; decide +kernel
  have notHigher : Version.compare (employeesCall "Employees" "1.0").request.version
      (employeesCall "Employees" "2.0").request.version ≠ .gt := by
    unfold Version.compare Version.compareSegments; decide +kernel
  have accepted (version : String) : (employeesCall "Employees" version).request.fault? = none := by
    have target : (Text.trim "Employees").isEmpty = false := by decide +kernel
    simp [Request.fault?, employeesCall, target]
  have sameOptions : (employeesCall "Employees" "1.0").options =
      (employeesCall "Employees" "2.0").options := rfl
  obtain ⟨t, outcome, state⟩ := exists_run_ledgerEngine (employeesCall "Employees" "2.0") []
    (accepted "2.0") rfl less
  have recorded : (recordedEntry
      ((employeesCall "Employees" "2.0").run ledgerEngine [] []).1).isSome = true := by
    rw [outcome]
    rfl
  have middle : MigrateCall.runAll ledgerEngine [] []
      ((employeesCall "Employees" "2.0").run ledgerEngine [] []).2.engine =
        ([], [("Employees", "2.0")]) := by
    rw [outcome, MigrateCall.runAll, state]
    rfl
  exact (keepsLedger_ledgerEngine.same_table_applied_iff (List.forall_mem_nil _) recorded middle
    sameOptions rfl (by decide +kernel) notHigher (accepted "1.0")).1.2 (.inl rfl)

theorem respelled_table_applied_again : KeepsLedger ledgerEngine id ∧
    (Table.named ownedOptions "HR.Employees").name = (Table.named ownedOptions "Employees").name ∧
    Version.compare "1.0" "2.0" = .lt ∧
    MigrateCall.runAll ledgerEngine []
        [employeesCall "Employees" "2.0", employeesCall "HR.Employees" "1.0"] [] =
      ([.ok (.altered 0 0 ⟨1, "Employees", none, "2.0", none⟩),
        .ok (.altered 0 0 ⟨1, "HR.Employees", none, "1.0", none⟩)],
        [("Employees", "2.0"), ("HR.Employees", "1.0")]) := by
  have less : Version.compare "0.0" "2.0" = .lt := by
    unfold Version.compare Version.compareSegments; decide +kernel
  have lower : Version.compare "1.0" "2.0" = .lt := by
    unfold Version.compare Version.compareSegments; decide +kernel
  have fresh : Version.compare (Version.latest (versionsOf "HR.Employees" [("Employees", "2.0")]))
      "1.0" = .lt := by
    unfold Version.compare Version.compareSegments; decide +kernel
  refine ⟨keepsLedger_ledgerEngine, by decide +kernel, lower, ?_⟩
  obtain ⟨t, outcome, state⟩ := exists_run_ledgerEngine (employeesCall "Employees" "2.0") []
    (by decide +kernel) rfl less
  have left : t.engine = [("Employees", "2.0")] := state
  obtain ⟨u, outcome', state'⟩ := exists_run_ledgerEngine (employeesCall "HR.Employees" "1.0")
    [("Employees", "2.0")] (by decide +kernel) rfl fresh
  rw [MigrateCall.runAll_cons outcome, left, MigrateCall.runAll_cons outcome', state']
  rfl

end OracleSql
