import Mathlib.Data.List.Nodup
import Mathlib.Data.List.Sort
import OracleSql.Proofs.Query.Block

set_option autoImplicit false

namespace OracleSql

/-- What the texts of a block mean: the rows of a source, in groups if there are any, and the value
that an expression has in a row. -/
structure Meaning (ρ α : Type) where
  rows : String → List ρ
  value : String → ρ → α
  number : Nat → α
  le : α → α → Bool
  le_total : ∀ x y, le x y = true ∨ le y x = true
  le_trans : ∀ x y z, le x y = true → le y z = true → le x z = true
  le_number : ∀ m n, le (number m) (number n) = true ↔ m ≤ n

variable {ρ α β γ : Type}

namespace Meaning

variable (m : Meaning ρ α)

def precedes (read : String → β → α) : List SortKey → β → β → Bool
  | [], _, _ => true
  | k :: rest, x, y =>
      let (first, second) := match k.direction with
        | .ascending => (read k.sql x, read k.sql y)
        | .descending => (read k.sql y, read k.sql x)
      m.le first second && (!m.le second first || precedes read rest x y)

def sort (read : String → β → α) (order : List SortKey) (rows : List β) : List β :=
  rows.insertionSort fun x y => m.precedes read order x y = true

def entries (source : String) : List (ρ × Nat) :=
  (m.rows source).zipIdx

def ranked (source : String) (order : List SortKey) : List (ρ × Nat) :=
  m.sort (fun sql x => m.value sql x.1) order (m.entries source)

/-- How many rows of the source come before the row. -/
def rank (source : String) (order : List SortKey) (x : ρ × Nat) : Nat :=
  (m.ranked source order).findIdx fun y => y.2 == x.2

variable {m}

theorem precedes_congr {read other : String → β → α} {order : List SortKey} {x y : β}
    (h : ∀ k ∈ order, read k.sql x = other k.sql x ∧ read k.sql y = other k.sql y) :
    m.precedes read order x y = m.precedes other order x y := by
  induction order with
  | nil => rfl
  | cons k rest ih =>
    have first := h k List.mem_cons_self
    unfold precedes
    rw [first.1, first.2, ih fun k member => h k (List.mem_cons_of_mem _ member)]

@[simp] theorem sort_nil (read : String → β → α) (rows : List β) : m.sort read [] rows = rows :=
  List.Pairwise.insertionSort_eq (List.pairwise_of_forall fun _ _ => rfl)

theorem perm_sort (read : String → β → α) (order : List SortKey) (rows : List β) :
    (m.sort read order rows).Perm rows :=
  List.perm_insertionSort _ _

theorem sort_congr {read other : String → β → α} {order : List SortKey} {rows : List β}
    (h : ∀ k ∈ order, ∀ x ∈ rows, read k.sql x = other k.sql x) :
    m.sort read order rows = m.sort other order rows := by
  have same := List.map_insertionSort (fun x y => m.precedes read order x y = true)
    (fun x y => m.precedes other order x y = true) id rows fun x hx y hy => by
      rw [precedes_congr fun k member => ⟨h k member x hx, h k member y hy⟩, id, id]
  simpa [sort] using same

theorem nodup_positions (source : String) : ((m.entries source).map Prod.snd).Nodup := by
  rw [entries, List.zipIdx_map_snd]
  exact List.nodup_range'

theorem perm_ranked (source : String) (order : List SortKey) :
    (m.ranked source order).Perm (m.entries source) :=
  perm_sort ..

theorem map_rank_ranked (source : String) (order : List SortKey) :
    (m.ranked source order).map (m.rank source order) =
      List.range (m.ranked source order).length := by
  have positions : ((m.ranked source order).map Prod.snd).Nodup :=
    ((perm_ranked source order).map Prod.snd).nodup_iff.2 (nodup_positions source)
  have apart := List.pairwise_iff_getElem.1 (List.pairwise_map.1 positions)
  refine List.ext_getElem (by simp) fun i inside _ => ?_
  rw [List.length_map] at inside
  rw [List.getElem_map, List.getElem_range, rank, List.findIdx_eq inside]
  refine ⟨beq_self_eq_true _, fun j before => beq_false_of_ne fun same => ?_⟩
  exact apart j i (before.trans inside) inside before same

theorem rank_injOn (source : String) (order : List SortKey) {x y : ρ × Nat}
    (hx : x ∈ m.entries source) (hy : y ∈ m.entries source)
    (h : m.rank source order x = m.rank source order y) : x = y := by
  have ranks : ((m.ranked source order).map (m.rank source order)).Nodup := by
    rw [map_rank_ranked]
    exact List.nodup_range
  have members := perm_ranked (m := m) source order
  exact List.inj_on_of_nodup_map ranks (members.mem_iff.2 hx) (members.mem_iff.2 hy) h

theorem number_inj {i j : Nat} (h : m.number i = m.number j) : i = j := by
  have up := (m.le_number i j).1 (h ▸ (m.le_number i i).2 le_rfl)
  have down := (m.le_number j i).1 (h ▸ (m.le_number i i).2 le_rfl)
  omega

end Meaning

def firsts [DecidableEq γ] (shown : β → γ) : List β → List β
  | [] => []
  | x :: rest => x :: (firsts shown rest).filter fun y => shown y ≠ shown x

section Firsts

variable [DecidableEq γ] {shown : β → γ}

theorem nodup_firsts (rows : List β) : ((firsts shown rows).map shown).Nodup := by
  induction rows with
  | nil => exact List.nodup_nil
  | cons x rest ih =>
    rw [firsts, List.map_cons, List.nodup_cons]
    refine ⟨?_, (List.filter_sublist.map shown).nodup ih⟩
    rintro again
    obtain ⟨y, member, same⟩ := List.mem_map.1 again
    simpa [same] using (List.mem_filter.1 member).2

theorem firsts_eq_self {rows : List β} (h : (rows.map shown).Nodup) : firsts shown rows = rows := by
  induction rows with
  | nil => rfl
  | cons x rest ih =>
    rw [List.map_cons, List.nodup_cons] at h
    rw [firsts, ih h.2, List.filter_eq_self.2]
    intro y member
    have other : shown y ≠ shown x := fun same => h.1 (List.mem_map.2 ⟨y, member, same⟩)
    simpa using other

end Firsts

def Cell.read (m : Meaning ρ α) (source : String) : Cell → ρ × Nat → α
  | .value sql, x => m.value sql x.1
  | .rowNumber order, x => m.number (m.rank source order x + 1)

namespace Block

variable (b : Block) (m : Meaning ρ α)

def shown (x : ρ × Nat) : List α :=
  b.items.map fun item => item.cell.read m b.source x

-- In the order of a block, a name of an item stands for the item.
def scope (sql : String) (x : ρ × Nat) : α :=
  match b.items.find? fun item => item.name.any (Name.quote · == sql) with
  | some item => item.cell.read m b.source x
  | none => m.value sql x.1

def returned [DecidableEq α] : List (ρ × Nat) :=
  m.sort (b.scope m) b.order <|
    if b.distinct then firsts (b.shown m) (m.entries b.source) else m.entries b.source

def rows [DecidableEq α] : List (List α) :=
  (b.returned m).map (b.shown m)

def listed : List (List α) :=
  (m.ranked b.source b.order).map (b.shown m)

/-- The order means the same for the rows of the source and for those of the result. -/
def OrdersSource : Prop :=
  ∀ k ∈ b.order, ∀ x ∈ m.entries b.source, b.scope m k.sql x = m.value k.sql x.1

variable {b m}

theorem rows_of_not_distinct [DecidableEq α] (order : b.OrdersSource m)
    (h : b.distinct = true → ((m.entries b.source).map (b.shown m)).Nodup) :
    b.rows m = b.listed m := by
  have all : (if b.distinct then firsts (b.shown m) (m.entries b.source) else m.entries b.source) =
      m.entries b.source := by
    split
    next distinct => exact firsts_eq_self (h distinct)
    next => rfl
  have same : m.sort (b.scope m) b.order (m.entries b.source) = m.ranked b.source b.order :=
    Meaning.sort_congr order
  rw [rows, returned, all, same, listed]

theorem rows_eq_listed_iff [DecidableEq α] (order : b.OrdersSource m) :
    b.rows m = b.listed m ↔ (b.distinct = true → (b.listed m).Nodup) := by
  have listed : (b.listed m).Perm ((m.entries b.source).map (b.shown m)) :=
    (Meaning.perm_ranked _ _).map _
  constructor
  next =>
    intro h distinct
    have returned : (b.rows m).Perm ((firsts (b.shown m) (m.entries b.source)).map (b.shown m)) := by
      rw [rows, Block.returned, if_pos distinct]
      exact (Meaning.perm_sort ..).map _
    rw [← h]
    exact returned.nodup_iff.2 (nodup_firsts _)
  next =>
    intro h
    exact rows_of_not_distinct order fun distinct => listed.nodup_iff.1 (h distinct)

end Block

def column? (names : List (Option String)) (name : String) (row : List α) : Option α :=
  row[names.idxOf (some name)]?

-- A name that is not exactly one column's is refused.
def Page.rows? [DecidableEq α] (p : Page) (m : Meaning ρ α) : Option (List (List α)) :=
  if ∀ name ∈ rowIndexColumn :: p.columns, p.inner.names.count (some name) = 1 then
    let numbered := (p.inner.rows m).filterMap fun row =>
      (column? p.inner.names rowIndexColumn row).map fun index => (index, row)
    let within := numbered.filter fun r =>
      m.le (m.number p.first) r.1 && m.le r.1 (m.number p.last)
    some <| (within.insertionSort fun r t => m.le r.1 t.1 = true).map fun r =>
      p.columns.filterMap fun name => column? p.inner.names name r.2
  else none

end OracleSql
