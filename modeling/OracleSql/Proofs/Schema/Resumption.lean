import OracleSql.Proofs.Schema.Convergence

set_option autoImplicit false

namespace OracleSql

open Database

namespace ColumnDiff

variable {report : String → ReportedType} {requested : List Attribute}
  {t middle t' : Database.Table}

variable (report) in
theorem exists_added (distinct : ((Attribute.stored requested).map Attribute.name).Nodup)
    (t : Database.Table) :
    ∃ middle, ((between requested t.columns).add.map Attribute.clause).foldlM
        (Database.Table.add report) t = .ok middle ∧
      Table.Changed (Table.IsAdded report) ((between requested t.columns).add.map Attribute.clause)
        t middle := by
  have names : ((between requested t.columns).add.map Attribute.clause).map ColumnClause.name =
      (between requested t.columns).add.map Attribute.name := by simp [Attribute.clause]
  refine (Table.isLocal_add report).exists_foldlM ?_ ?_
  next =>
    rw [names]
    exact nodup_filter distinct _
  next => exact List.forall_mem_map.2 fun a => column?_of_mem_add

theorem exists_modified (distinct : ((Attribute.stored requested).map Attribute.name).Nodup)
    (first : Table.Changed (Table.IsAdded report)
      ((between requested t.columns).add.map Attribute.clause) t middle) :
    ∃ t', ((modifications (between requested t.columns).change t.columns).map
        Modification.clause).foldlM (Database.Table.modify report) middle = .ok t' ∧
      Table.Changed (Table.IsModified report)
        ((modifications (between requested t.columns).change t.columns).map Modification.clause)
        middle t' := by
  have names : ((modifications (between requested t.columns).change t.columns).map
      Modification.clause).map ColumnClause.name =
        (between requested t.columns).change.map Attribute.name := by
    rw [← names_modifications _ t.columns]
    simp [Modification.clause]
  refine (Table.isLocal_modify report).exists_foldlM ?_ ?_
  next =>
    rw [names]
    exact nodup_filter distinct _
  next => exact List.forall_mem_map.2 (canModify_of_added first)

variable (report) in
theorem exists_columns (distinct : ((Attribute.stored requested).map Attribute.name).Nodup)
    (table : ObjectName) :
    ∃ t, (clauses (SchemaChange.tableItems table requested)).foldlM
        (Database.Table.add report) .empty = .ok t ∧
      Table.Changed (Table.IsAdded report) (clauses (SchemaChange.tableItems table requested))
        .empty t := by
  have names : (clauses (SchemaChange.tableItems table requested)).map ColumnClause.name =
      (Attribute.stored requested).map Attribute.name := by
    rw [clauses_tableItems]
    simp [Attribute.clause]
  exact (Table.isLocal_add report).exists_foldlM (names ▸ distinct) fun _ _ => rfl

section Added

variable (faithful : IsFaithful report)
  (distinct : ((Attribute.stored requested).map Attribute.name).Nodup)
  (first : Table.Changed (Table.IsAdded report)
    ((between requested t.columns).add.map Attribute.clause) t middle)

include first

theorem columnOf?_added {a : Attribute} {c : Column} (present : columnOf? t.columns a = some c) :
    columnOf? middle.columns a = some c :=
  column?_kept first present

theorem modifications_added :
    modifications (between requested t.columns).change middle.columns =
      modifications (between requested t.columns).change t.columns := by
  refine List.map_congr_left fun a changed => ?_
  obtain ⟨c, present⟩ := exists_column?_of_mem_change changed
  have before : columnOf? t.columns a = some c := present
  simp only [modification, before, columnOf?_added first before]

include faithful

theorem settled_added {a : Attribute} (stored : a ∈ Attribute.stored requested)
    (missing : columnOf? t.columns a = none) : Settled a (columnOf? middle.columns a) := by
  have added : a ∈ (between requested t.columns).add :=
    List.mem_filter.2 ⟨stored, by simp [isMissing, missing]⟩
  exact settled_of_isAdded faithful (first.own a.clause (List.mem_map_of_mem added))

theorem between_added : between requested middle.columns =
    ⟨[], (between requested t.columns).change⟩ := by
  have missing (a : Attribute) (stored : a ∈ Attribute.stored requested) :
      isMissing middle.columns a = false ∧ differs middle.columns a = differs t.columns a := by
    cases before : columnOf? t.columns a with
    | none =>
      obtain ⟨there, same⟩ := settled_iff.1 (settled_added faithful first stored before)
      exact ⟨there, same.trans (by simp [differs, before])⟩
    | some c =>
      have now := columnOf?_added first before
      simp [isMissing, differs, before, now]
  have add : (Attribute.stored requested).filter (isMissing middle.columns) = [] :=
    List.filter_eq_nil_iff.2 fun a stored => by simp [(missing a stored).1]
  have change : (Attribute.stored requested).filter (differs middle.columns) =
      (Attribute.stored requested).filter (differs t.columns) :=
    List.filter_congr fun a stored => (missing a stored).2
  simp only [between, add, change]

end Added

/-- A table that is there is altered in two steps, and one that is not there is created, as far as
such tables can be held. -/
inductive Brings (report : String → ReportedType) (holds : Database.Table → Prop)
    (table : ObjectName) (requested : List Attribute) :
    Option Database.Table → Database.Table → Prop where
  | creates {t : Database.Table} (columns : requested.isEmpty = false)
      (accepted : (clauses (SchemaChange.tableItems table requested)).foldlM
        (Database.Table.add report) .empty = .ok t)
      (held : holds (t.withKey (keyColumns (SchemaChange.tableItems table requested)))) :
      Brings report holds table requested none
        (t.withKey (keyColumns (SchemaChange.tableItems table requested)))
  | alters {t middle t' : Database.Table}
      (adds : ((between requested t.columns).add.map Attribute.clause).foldlM
        (Database.Table.add report) t = .ok middle)
      (heldAdded : holds middle)
      (modifies : ((modifications (between requested t.columns).change t.columns).map
        Modification.clause).foldlM (Database.Table.modify report) middle = .ok t')
      (held : holds t') :
      Brings report holds table requested (some t) t'

namespace Brings

variable {holds : Database.Table → Prop} {table : ObjectName} {old : Option Database.Table}

theorem unique {a b : Database.Table} (ha : Brings report holds table requested old a)
    (hb : Brings report holds table requested old b) : a = b := by
  cases ha with
  | creates columns accepted =>
    cases hb with
    | creates columns' accepted' =>
      cases accepted.symm.trans accepted'
      rfl
  | alters adds heldAdded modifies =>
    cases hb with
    | alters adds' heldAdded' modifies' =>
      cases adds.symm.trans adds'
      cases modifies.symm.trans modifies'
      rfl

theorem held (h : Brings report holds table requested old t') : holds t' := by
  cases h with
  | creates columns accepted held => exact held
  | alters adds heldAdded modifies held => exact held

variable (distinct : ((Attribute.stored requested).map Attribute.name).Nodup)
  (faithful : IsFaithful report)

include distinct faithful

theorem settled (h : Brings report holds table requested old t') :
    ∀ a ∈ Attribute.stored requested, Settled a (t'.column? a.name) := by
  cases h with
  | creates columns accepted =>
    intro a member
    obtain ⟨t, accepted', changed⟩ := exists_columns report distinct table
    cases accepted.symm.trans accepted'
    have own := changed.own a.clause (by
      rw [clauses_tableItems]
      exact List.mem_map_of_mem member)
    exact settled_withKey (settled_of_isAdded faithful own) _
  | alters adds heldAdded modifies =>
    obtain ⟨middle, adds', first⟩ := exists_added report distinct _
    cases adds.symm.trans adds'
    obtain ⟨t', modifies', second⟩ := exists_modified distinct first
    cases modifies.symm.trans modifies'
    exact settled_of_phases first second faithful distinct

theorem again (h : Brings report holds table requested old t') :
    Brings report holds table requested (some t') t' := by
  have nothing : (between requested t'.columns).isEmpty = true :=
    isEmpty_between_iff.2 (h.settled distinct faithful)
  simp only [isEmpty, Bool.and_eq_true, List.isEmpty_iff] at nothing
  have adds : ((between requested t'.columns).add.map Attribute.clause).foldlM
      (Database.Table.add report) t' = .ok t' := by
    rw [nothing.1]
    rfl
  refine .alters adds h.held ?_ h.held
  rw [nothing.2]
  rfl

theorem of_added (h : Brings report holds table requested (some t) t')
    (adds : ((between requested t.columns).add.map Attribute.clause).foldlM
      (Database.Table.add report) t = .ok middle) :
    Brings report holds table requested (some middle) t' := by
  cases h with
  | alters adds' heldAdded modifies held =>
    cases adds.symm.trans adds'
    obtain ⟨middle, adds', first⟩ := exists_added report distinct t
    cases adds.symm.trans adds'
    have left := between_added faithful first
    have nothing : ((between requested middle.columns).add.map Attribute.clause).foldlM
        (Database.Table.add report) middle = .ok middle := by
      rw [left]
      rfl
    refine .alters nothing heldAdded ?_ held
    rw [left, modifications_added first]
    exact modifies

end Brings

end ColumnDiff

end OracleSql
