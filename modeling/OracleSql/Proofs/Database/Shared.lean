import Mathlib.Data.List.Sort
import OracleSql.Proofs.Database.Sequence

set_option autoImplicit false

namespace OracleSql

open Sql

instance : DecidableRel Column.Precedes :=
  fun a b => inferInstanceAs (Decidable (a.ordinal ≤ b.ordinal))

instance : Std.Total Column.Precedes :=
  ⟨fun a b => Int.le_total a.ordinal b.ordinal⟩

instance : IsTrans Column Column.Precedes :=
  ⟨fun _ _ _ => Int.le_trans⟩

-- A database in memory that is shared by several owners. What is not about the catalog or about
-- sequences has no effect in it.
structure Shared where
  objects : List OwnedObject
  columns : List { c : OwnedColumn // c.column.IsReadable }
  drawn : Int

namespace Shared

def held (x : Shared) : Holdings :=
  ⟨x.objects, x.columns.map Subtype.val⟩

-- The owner's name between the marks for start and end, in any case.
def likes (pattern owner : String) : Bool :=
  pattern.toList.map Char.toUpper == ('^' :: owner.toList ++ ['$']).map Char.toUpper

def refuse (x : Shared) (message : String) : Except EngineError (List Row) × Shared :=
  (.error ⟨message⟩, x)

def query (params : List Value) (x : Shared) :
    CatalogQuery → Except EngineError (List Row) × Shared
  | .count view conditions =>
      (.ok [[("count", .int (x.held.count likes view conditions params))]], x)
  | .columns conditions =>
      match params with
      | .text keyTable :: params =>
          (.ok (((x.held.reported likes keyTable conditions params).insertionSort
            Column.Precedes).map Memory.columnRow), x)
      | _ => x.refuse "ORA-01008: not all variables bound"

theorem query_snd (params : List Value) (x : Shared) (q : CatalogQuery) :
    (query params x q).2 = x := by
  unfold query
  split
  next => rfl
  next => split <;> rfl

def change (user : String) (x : Shared) (st : SequenceStatement) :
    Except EngineError (List Row) × Shared :=
  match st with
  | .create _ =>
      if st.object user ∈ x.objects then x.refuse Memory.nameTaken
      else (.ok [], { x with objects := st.object user :: x.objects })
  | .restart _ =>
      if st.object user ∈ x.objects then (.ok [], x)
      else x.refuse "ORA-02289: sequence does not exist"
  | .draw _ column =>
      if st.object user ∈ x.objects then
        (.ok [[(column, .int (x.drawn + 1))]], { x with drawn := x.drawn + 1 })
      else x.refuse "ORA-02289: sequence does not exist"

def execute (user : String) (sql : String) (params : List Value) (x : Shared) :
    Except EngineError (List Row) × Shared :=
  match CatalogQuery.read? sql with
  | some q => query params x q
  | none =>
      match SequenceStatement.read? sql with
      | some st => change user x st
      | none => (.ok [], x)

def engine (user : String) : Engine Shared where
  execute := execute user
  hook _ x := (.ok (), x)

theorem mem_reported_isReadable {x : Shared} {keyTable : String} {conditions : List Condition}
    {params : List Value} {c : Column} (h : c ∈ x.held.reported likes keyTable conditions params) :
    c.IsReadable := by
  obtain ⟨owned, member, rfl⟩ := List.mem_map.1 h
  obtain ⟨⟨_, readable⟩, _, rfl⟩ := List.mem_map.1 (List.mem_filter.1 member).1
  exact readable

theorem mapM_columnOf?_map_columnRow {columns : List Column}
    (readable : ∀ c ∈ columns, c.IsReadable) :
    (columns.map Memory.columnRow).mapM Catalog.columnOf? = some columns :=
  mapM_map_eq_some fun c member => Memory.columnOf?_columnRow (readable c member)

section Replies

variable {user sql : String} {params : List Value} {x : Shared}

theorem execute_query {q : CatalogQuery} (read : CatalogQuery.read? sql = some q) :
    (engine user).execute sql params x = query params x q := by
  show execute user sql params x = _
  rw [execute, read]

theorem execute_change {st : SequenceStatement} (read : SequenceStatement.read? sql = some st) :
    (engine user).execute sql params x = change user x st := by
  show execute user sql params x = _
  rw [execute, SequenceStatement.catalog_of_read? read, read]

end Replies

theorem showsCatalog (user : String) : ShowsCatalog (engine user) held likes where
  counts sql params x view conditions read := ⟨_, x, execute_query read, rfl, rfl⟩
  columns sql keyTable params x conditions read := by
    refine ⟨_, x, _, execute_query read, rfl, mapM_columnOf?_map_columnRow fun c member => ?_,
      List.perm_insertionSort _ _, List.pairwise_insertionSort _ _⟩
    exact mem_reported_isReadable ((List.perm_insertionSort _ _).mem_iff.1 member)

theorem keepsSequences (user : String) : KeepsSequences (engine user) held user where
  creates sql params x n read fresh := by
    refine ⟨[], _, (execute_change read).trans (if_neg fresh), rfl⟩
  refuses sql params x n read there :=
    ⟨_, x, (execute_change read).trans (if_pos there), rfl⟩
  restarts sql params x n read there :=
    ⟨[], x, (execute_change read).trans (if_pos there), rfl⟩
  draws sql params x n column read there := by
    refine ⟨_, _, Row.clamp (x.drawn + 1), (execute_change read).trans (if_pos there), rfl, ?_⟩
    simp [Row.int?, Row.value?, Keyed.get?]
  misses sql params x st read other missing := by
    cases st with
    | create n => exact absurd rfl (other n)
    | restart | draw => exact ⟨_, x, (execute_change read).trans (if_neg missing), rfl⟩
  queries sql params x query := by
    show (execute user sql params x).2.held = x.held
    rw [execute]
    cases CatalogQuery.read? sql with
    | some q => rw [query_snd]
    | none =>
      cases read : SequenceStatement.read? sql with
      | none => rfl
      | some st =>
        obtain ⟨n, column, rfl⟩ := SequenceStatement.eq_draw_of_query read query
        show (if _ then _ else _ : _ × Shared).2.held = _
        split <;> rfl

end Shared

end OracleSql
