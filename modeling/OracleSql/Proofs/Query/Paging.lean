import Mathlib.Data.List.ReduceOption
import OracleSql.Proofs.Query.Rows

set_option autoImplicit false

namespace OracleSql

variable {ρ α β : Type}

theorem filter_positions {f : β → Nat} {l : List β} (h : l.map f = List.range l.length)
    (skip take : Nat) :
    l.filter (fun x => decide (skip ≤ f x ∧ f x < skip + take)) = (l.drop skip).take take := by
  have position (i : Nat) (inside : i < l.length) : f l[i] = i := by
    simpa [inside] using congrArg (fun ns => ns[i]?) h
  have early : ∀ x ∈ l.take skip, f x < skip := by
    intro x member
    obtain ⟨i, inside, rfl⟩ := List.mem_take_iff_getElem.1 member
    rw [position]
    omega
  have middle : ∀ x ∈ (l.drop skip).take take, skip ≤ f x ∧ f x < skip + take := by
    intro x member
    obtain ⟨i, inside, rfl⟩ := List.mem_take_iff_getElem.1 member
    rw [List.length_drop] at inside
    rw [List.getElem_drop, position]
    omega
  have late : ∀ x ∈ (l.drop skip).drop take, skip + take ≤ f x := by
    intro x member
    obtain ⟨i, inside, rfl⟩ := List.mem_drop_iff_getElem.1 member
    rw [List.length_drop] at inside
    rw [List.getElem_drop, position]
    omega
  -- The list falls into three pieces, of which the second is kept.
  conv_lhs => rw [← List.take_append_drop skip l, ← List.take_append_drop take (l.drop skip)]
  rw [List.filter_append, List.filter_append, List.filter_eq_nil_iff.2, List.filter_eq_self.2,
    List.filter_eq_nil_iff.2, List.nil_append, List.append_nil]
  next => simpa using fun x member _ => late x member
  next => simpa using middle
  next => simpa using fun x member bound => absurd (early x member) (by omega)

theorem once_iff_nodup {names : List String} {name : String} :
    (∀ n ∈ name :: names, (names.map some ++ [some name]).count (some n) = 1) ↔
      (names.map some ++ [some name]).Nodup := by
  have mem_iff (n : String) : some n ∈ names.map some ++ [some name] ↔ n ∈ name :: names := by
    simp [or_comm]
  constructor
  next =>
    intro once
    refine List.nodup_iff_count_le_one.2 fun n? => ?_
    by_cases member : n? ∈ names.map some ++ [some name]
    next =>
      cases n? with
      | none => simp at member
      | some n => exact (once n ((mem_iff n).1 member)).le
    next => exact (List.count_eq_zero_of_not_mem member).le.trans (Nat.zero_le 1)
  next =>
    intro distinct n member
    exact List.count_eq_one_of_mem distinct ((mem_iff n).2 member)

section Columns

variable {names : List String} {extra : Option String} {row : List α} {index : α}

theorem column?_extra {name : String} (h : (names.map some ++ [some name]).Nodup)
    (length : row.length = names.length) :
    column? (names.map some ++ [some name]) name (row ++ [index]) = some index := by
  have absent : some name ∉ names.map some := fun member =>
    (List.nodup_append.1 h).2.2 _ member _ (List.mem_singleton_self _) rfl
  rw [column?, List.idxOf_append_of_notMem absent]
  simp [length]

theorem filterMap_column? (h : (names.map some ++ [extra]).Nodup)
    (length : row.length = names.length) :
    names.filterMap (fun name => column? (names.map some ++ [extra]) name (row ++ [index])) =
      row := by
  have each : names.map (fun name => column? (names.map some ++ [extra]) name (row ++ [index])) =
      row.map some := by
    refine List.ext_getElem (by simp [length]) fun i inside _ => ?_
    rw [List.length_map] at inside
    have place : (names.map some ++ [extra]).idxOf (some names[i]) = i := by
      have own := h.idxOf_getElem i (by simp; omega)
      rwa [List.getElem_append_left (by simpa using inside), List.getElem_map] at own
    rw [List.getElem_map, List.getElem_map, column?, place,
      List.getElem?_append_left (by omega), List.getElem?_eq_getElem (by omega)]
  calc names.filterMap _ = (names.map _).filterMap id := by rw [List.filterMap_map]; rfl
    _ = (row.map some).filterMap id := congrArg (List.filterMap id) each
    _ = row := by rw [List.filterMap_map]; exact List.filterMap_some

end Columns

namespace Block

variable {b : Block} {m : Meaning ρ α}

def numberedRow (b : Block) (m : Meaning ρ α) (x : ρ × Nat) : List α :=
  b.shown m x ++ [m.number (m.rank b.source b.order x + 1)]

theorem shown_numbered (x : ρ × Nat) : b.numbered.shown m x = b.numberedRow m x := by
  simp [shown, numbered, numberedRow, Item.rowNumber, Cell.read]

theorem rows_numbered [DecidableEq α] :
    b.numbered.rows m = (m.entries b.source).map (b.numberedRow m) := by
  have shown : b.numbered.shown m = b.numberedRow m := funext shown_numbered
  have unordered : b.numbered.OrdersSource m := nofun
  have entries : (m.entries b.source).Nodup := .of_map Prod.snd (Meaning.nodup_positions b.source)
  -- The number of a row tells it apart, so DISTINCT leaves out nothing.
  have apart : ((m.entries b.source).map (b.numberedRow m)).Nodup := by
    refine entries.map_on fun x hx y hy same => ?_
    have last := congrArg List.getLast? same
    simp only [numberedRow, List.getLast?_concat, Option.some.injEq] at last
    exact Meaning.rank_injOn b.source b.order hx hy (Nat.succ_inj.1 (Meaning.number_inj last))
  rw [rows_of_not_distinct unordered fun _ => shown ▸ apart, listed, shown]
  exact congrArg (List.map _) (Meaning.sort_nil ..)

end Block

namespace Meaning

variable {m : Meaning ρ α} {source : String} {order : List SortKey}

def tag (m : Meaning ρ α) (source : String) (order : List SortKey) (row : ρ × Nat → List α)
    (x : ρ × Nat) : α × List α :=
  (m.number (m.rank source order x + 1), row x)

theorem pairwise_ranked (row : ρ × Nat → List α) :
    ((m.ranked source order).map (m.tag source order row)).Pairwise
      fun r t => m.le r.1 t.1 = true := by
  have ranks : (m.ranked source order).Pairwise fun x y =>
      m.rank source order x < m.rank source order y := by
    rw [← List.pairwise_map, map_rank_ranked]
    exact List.pairwise_lt_range
  refine List.pairwise_map.2 (ranks.imp fun before => ?_)
  exact (m.le_number _ _).2 (Nat.succ_le_succ before.le)

theorem within_eq (skip take : Nat) (x : ρ × Nat) :
    (m.le (m.number (skip + 1)) (m.number (m.rank source order x + 1)) &&
      m.le (m.number (m.rank source order x + 1)) (m.number (skip + take))) =
      decide (skip ≤ m.rank source order x ∧ m.rank source order x < skip + take) := by
  rw [Bool.eq_iff_iff, Bool.and_eq_true, m.le_number, m.le_number, decide_eq_true_iff]
  omega

def within (m : Meaning ρ α) (source : String) (order : List SortKey) (row : ρ × Nat → List α)
    (skip take : Nat) : List (α × List α) :=
  ((m.entries source).map (m.tag source order row)).filter fun r =>
    m.le (m.number (skip + 1)) r.1 && m.le r.1 (m.number (skip + take))

theorem perm_within (row : ρ × Nat → List α) (skip take : Nat) :
    (m.within source order row skip take).Perm
      ((((m.ranked source order).drop skip).take take).map (m.tag source order row)) := by
  have same : (fun r : α × List α => m.le (m.number (skip + 1)) r.1 &&
      m.le r.1 (m.number (skip + take))) ∘ m.tag source order row =
      fun x => decide (skip ≤ m.rank source order x ∧ m.rank source order x < skip + take) :=
    funext (within_eq skip take)
  rw [within, List.filter_map, same, ← filter_positions (map_rank_ranked source order)]
  exact ((perm_ranked source order).filter _).symm.map _

theorem insertionSort_within (row : ρ × Nat → List α) (skip take : Nat) :
    ((m.within source order row skip take).insertionSort fun r t => m.le r.1 t.1 = true) =
      (((m.ranked source order).drop skip).take take).map (m.tag source order row) := by
  let before (r t : α × List α) : Prop := m.le r.1 t.1 = true
  have total : Std.Total before := ⟨fun r t => m.le_total r.1 t.1⟩
  have trans : IsTrans (α × List α) before := ⟨fun r t u => m.le_trans r.1 t.1 u.1⟩
  have piece : (((m.ranked source order).drop skip).take take).Sublist (m.ranked source order) :=
    (List.take_sublist _ _).trans (List.drop_sublist _ _)
  have sorted : ((m.within source order row skip take).insertionSort before).Perm
      ((((m.ranked source order).drop skip).take take).map (m.tag source order row)) :=
    (List.perm_insertionSort before _).trans (perm_within row skip take)
  refine sorted.eq_of_pairwise ?_ (List.pairwise_insertionSort before _)
    ((pairwise_ranked row).sublist (piece.map _))
  -- Two rows of one number are one row.
  intro r t first second up down
  obtain ⟨x, hx, rfl⟩ := List.mem_map.1 (sorted.mem_iff.1 first)
  obtain ⟨y, hy, rfl⟩ := List.mem_map.1 second
  have member {z : ρ × Nat} (h : z ∈ ((m.ranked source order).drop skip).take take) :
      z ∈ m.entries source := (perm_ranked source order).mem_iff.1 (piece.subset h)
  have rank : m.rank source order x = m.rank source order y := by
    have upper := (m.le_number _ _).1 up
    have lower := (m.le_number _ _).1 down
    omega
  rw [rank_injOn source order (member hx) (member hy) rank]

end Meaning

namespace Block

variable {b : Block} {m : Meaning ρ α}

theorem rows?_page [DecidableEq α] (named : ∀ name ∈ b.names, name.isSome) (skip take : Nat) :
    (b.page skip take).rows? m =
      if (b.names ++ [some rowIndexColumn]).Nodup then some (((b.listed m).drop skip).take take)
      else none := by
  have names := map_some_reduceOption named
  unfold Page.rows?
  simp only [page, names_numbered, rows_numbered]
  generalize b.names.reduceOption = columns at names
  have length (x : ρ × Nat) : (b.shown m x).length = columns.length := by
    rw [← List.length_map some, ← columns.length_map some, names]
    simp [shown, Block.names]
  rw [← names]
  simp only [once_iff_nodup]
  split
  next distinct =>
    have tagged : ((m.entries b.source).map (b.numberedRow m)).filterMap (fun row =>
        (column? (columns.map some ++ [some rowIndexColumn]) rowIndexColumn row).map
          fun index => (index, row)) =
        (m.entries b.source).map (m.tag b.source b.order (b.numberedRow m)) := by
      rw [List.filterMap_map]
      refine List.filterMap_eq_map_iff_forall_eq_some.2 fun x _ => ?_
      rw [Function.comp_apply, numberedRow, column?_extra distinct (length x)]
      rfl
    have picked (x : ρ × Nat) : columns.filterMap (fun name =>
        column? (columns.map some ++ [some rowIndexColumn]) name (b.numberedRow m x)) =
        b.shown m x :=
      filterMap_column? distinct (length x)
    rw [tagged, ← Meaning.within, Meaning.insertionSort_within, List.map_map, listed, ← List.map_drop,
      ← List.map_take]
    refine congrArg some (List.map_congr_left fun x _ => ?_)
    exact picked x
  next => rfl

end Block

theorem Query.render_fixed (s : Settings) {q : Query} (fixed : q.fixed = true) :
    q.render s = q.unpaged.render s := by
  rw [Query.render_eq_selectText, Query.render_eq_selectText, selectText, selectText, if_pos fixed]
  exact (if_pos fixed).symm

/--
The page of a query is a piece of its rows in the order of their numbers, repetitions included. The
query without a page has the same rows unless it leaves out repetitions.
-/
theorem Query.page_listed [DecidableEq α] (s : Settings) {q : Query} (fields : q.fields ≠ [])
    (named : ∀ f ∈ q.fields, ∃ name, f.outputName = some name ∧ name ≠ "*")
    (take : 0 < q.take.getD 0) (range : q.skip.getD 0 + q.take.getD 0 < Nat.pow 2 64)
    (m : Meaning ρ α) :
    (q.fixed = true → q.render s = q.unpaged.render s) ∧
      (q.fixed = false →
        q.unpaged.render s = (q.block s).map (Block.text s) ∧
        (∀ sql, q.render s = .ok sql ↔
          ∃ b, q.block s = .ok b ∧ sql = (b.page (q.skip.getD 0) (q.take.getD 0)).text s) ∧
        ∀ b, q.block s = .ok b →
          (b.page (q.skip.getD 0) (q.take.getD 0)).rows? m =
            (if (q.fields.map Field.outputName ++ [some rowIndexColumn]).Nodup then
              some (((b.listed m).drop (q.skip.getD 0)).take (q.take.getD 0))
            else none) ∧
          (b.OrdersSource m →
            (b.rows m = b.listed m ↔ (b.distinct = true → (b.listed m).Nodup)))) := by
  refine ⟨Query.render_fixed s, fun fixed => ⟨Query.render_unpaged fixed fields, fun sql =>
    Query.render_paged_iff fixed fields named take range, fun b block => ⟨?_, ?_⟩⟩⟩
  next =>
    have names := Query.names_block block
    rw [← names]
    refine Block.rows?_page (fun name member => ?_) _ _
    rw [names] at member
    obtain ⟨f, field, rfl⟩ := List.mem_map.1 member
    obtain ⟨name, own, -⟩ := named f field
    rw [own, Option.isSome_some]
  next => exact Block.rows_eq_listed_iff

def products (rows : List (Nat × Nat)) : Meaning (Nat × Nat) Nat where
  rows source := if source = Name.quote "Products" then rows else []
  value sql row := if sql = Name.quote "name" then row.1 else row.2
  number := id
  le x y := decide (x ≤ y)
  le_total x y := by simpa using Nat.le_total x y
  le_trans x y z := by simpa using Nat.le_trans
  le_number m n := by simp

def secondPage : Query :=
  { Query.ofEntity "Products" with
    distinct := true
    fields := [⟨.named "name", none⟩, ⟨.named "category", some "kind"⟩]
    order := [⟨.named "category", .descending⟩, ⟨.named "name", .ascending⟩]
    skip := some 1
    take := some 2 }

def secondBlock : Block where
  distinct := true
  items := [⟨.value (Name.quote "name"), some "name", none⟩,
    ⟨.value (Name.quote "category"), some "kind", some "kind"⟩]
  source := Name.quote "Products"
  order := [⟨Name.quote "category", .descending⟩, ⟨Name.quote "name", .ascending⟩]

def shelf : Meaning (Nat × Nat) Nat :=
  products [(1, 5), (4, 7), (2, 5), (3, 7)]

theorem Query.page_listed_shelf :
    secondPage.fields ≠ [] ∧
      (∀ f ∈ secondPage.fields, ∃ name, f.outputName = some name ∧ name ≠ "*") ∧
      0 < secondPage.take.getD 0 ∧ secondPage.skip.getD 0 + secondPage.take.getD 0 < Nat.pow 2 64 ∧
      secondPage.unpaged.render (.default 3600) = .ok (secondBlock.text (.default 3600)) ∧
      secondPage.render (.default 3600) = .ok ((secondBlock.page 1 2).text (.default 3600)) ∧
      secondBlock.rows shelf = [[3, 7], [4, 7], [1, 5], [2, 5]] ∧
      (secondBlock.page 1 2).rows? shelf = some [[4, 7], [1, 5]] := by
  have fields : secondPage.fields ≠ [] := by simp [secondPage]
  have named : ∀ f ∈ secondPage.fields, ∃ name, f.outputName = some name ∧ name ≠ "*" := by
    intro f member
    obtain rfl | rfl : f = ⟨.named "name", none⟩ ∨ f = ⟨.named "category", some "kind"⟩ := by
      simpa [secondPage] using member
    next => exact ⟨"name", rfl, by decide⟩
    next => exact ⟨"kind", rfl, by decide⟩
  have take : 0 < secondPage.take.getD 0 := by decide
  have range : secondPage.skip.getD 0 + secondPage.take.getD 0 < Nat.pow 2 64 := by decide
  have block : secondPage.block (.default 3600) = .ok secondBlock := by rfl
  have listed : secondBlock.listed shelf = [[3, 7], [4, 7], [1, 5], [2, 5]] := by decide
  have order : secondBlock.OrdersSource shelf := by
    unfold Block.OrdersSource
    decide
  obtain ⟨plain, paged, rows⟩ := (Query.page_listed (.default 3600) fields named take range shelf).2 rfl
  obtain ⟨page, all⟩ := rows secondBlock block
  have distinct : (secondBlock.listed shelf).Nodup := by
    rw [listed]
    decide
  rw [listed] at page
  exact ⟨fields, named, take, range, plain.trans (congrArg (Except.map _) block),
    (paged _).2 ⟨secondBlock, block, rfl⟩, ((all order).2 fun _ => distinct).trans listed, page⟩

def firstCategories : Query :=
  { Query.ofEntity "Products" with
    distinct := true
    fields := [⟨.named "category", none⟩]
    order := [⟨.named "category", .ascending⟩]
    take := some 2 }

-- The numbers make every row distinct, so the page shows a category twice.
theorem repetition_on_page :
    firstCategories.unpaged.render (.default 3600) =
        .ok "SELECT DISTINCT \"category\" FROM \"Products\" ORDER BY \"category\" ASC" ∧
      firstCategories.render (.default 3600) = .ok ("SELECT \"category\" FROM (SELECT DISTINCT " ++
        "\"category\", ROW_NUMBER() OVER(ORDER BY \"category\" ASC) \"__RowIndex\" FROM " ++
        "\"Products\") t0 WHERE \"__RowIndex\" BETWEEN 1 AND 2 ORDER BY \"__RowIndex\"") ∧
      ∃ b : Block, firstCategories.unpaged.render (.default 3600) = .ok (b.text (.default 3600)) ∧
        firstCategories.render (.default 3600) = .ok ((b.page 0 2).text (.default 3600)) ∧
        b.rows (products [(1, 5), (2, 5), (3, 7)]) = [[5], [7]] ∧
        (b.page 0 2).rows? (products [(1, 5), (2, 5), (3, 7)]) = some [[5], [5]] := by
  let b : Block :=
    ⟨true, [⟨.value (Name.quote "category"), some "category", none⟩], Name.quote "Products",
      [⟨Name.quote "category", .ascending⟩]⟩
  exact ⟨by decide +kernel, by decide +kernel, b, by decide +kernel, by decide +kernel, by decide,
    by decide⟩

end OracleSql
