import Mathlib.Data.List.Count
import OracleSql.Proofs.Query.Paging
import OracleSql.Proofs.Query.Star

set_option autoImplicit false

namespace OracleSql

-- The name of a column of a result is the alias that is printed, or else the column's own.
def Settings.columnName (s : Settings) (f : Field) : Option String :=
  match s.printedAlias f.expr f.alias?, f.expr with
  | some name, _ => some name
  | none, .column c => some c.column
  | none, _ => none

theorem Settings.columnName_eq (s : Settings) (f : Field) : s.columnName f = f.outputName := by
  obtain ⟨e, alias?⟩ := f
  cases alias? with
  | some name => rfl
  | none =>
    cases e with
    | column c =>
      -- An alias that is only printed because the settings ask for it is the column's own name.
      by_cases forced : s.forceAlias ∧ c.table.isSome ∧ c.column ≠ "*"
      next => simp [columnName, printedAlias, forced, Field.outputName]
      next => simp [columnName, printedAlias, forced, Field.outputName]
    | value | call | select => rfl

namespace Query

/-- The query with the number of each row, and without what the page is made by. -/
def numbered (q : Query) : Query :=
  { q with
    fields := q.fields ++ [⟨.call (.rowIndex q.order), some rowIndexColumn⟩]
    order := []
    skip := none
    take := none }

def outputNames (q : Query) : List String :=
  q.fields.filterMap Field.outputName

-- The names that the outer query lists; a star is none.
def listedNames (q : Query) : List String :=
  q.outputNames.filter (· ≠ "*")

end Query

variable {s : Settings} {q : Query}

theorem Field.renderAll_append (a b : List Field) :
    Field.renderAll s (a ++ b) = Field.renderAll s a >>= fun first =>
      Field.renderAll s b >>= fun later => pure (first ++ later) := by
  induction a with
  | nil =>
    cases later : Field.renderAll s b with
    | error e => simp [Field.renderAll, later]; rfl
    | ok items => simp [Field.renderAll, later]; rfl
  | cons f rest ih =>
    rw [List.cons_append, Field.renderAll, ih, Field.renderAll]
    cases f.render s with
    | error e => rfl
    | ok item =>
      cases Field.renderAll s rest with
      | error e => rfl
      | ok items =>
        cases Field.renderAll s b with
        | error e => rfl
        | ok others => rfl

theorem Query.render_numbered {e : Entity} (fixed : q.fixed = false) (fields : q.fields ≠ [])
    (entity : q.entity = some e) : q.numbered.render s =
      plainText q.distinct e
        (pageItems s e ⟨q.fields.map Field.outputName, Field.renderAll s q.fields⟩
          (OrderTerm.renderAll s q.order))
        ⟨Join.renderAll s q.joins, Predicate.renderOption s q.filter, Expr.renderAll s q.group,
          .ok []⟩ := by
  have some : ¬(q.fields.map Field.outputName).isEmpty = true := by simpa using fields
  have items : pageItems s e ⟨q.fields.map Field.outputName, Field.renderAll s q.fields⟩
      (OrderTerm.renderAll s q.order) = Field.renderAll s q.numbered.fields := by
    rw [pageItems, if_neg some, numbered, Field.renderAll_append]
    cases Field.renderAll s q.fields with
    | error e => rfl
    | ok items =>
      simp only [Field.renderAll, Field.render, Expr.render, Call.render]
      cases OrderTerm.renderAll s q.order with
      | error e => rfl
      | ok order => rfl
  rw [items, Query.render_eq_selectText, selectText]
  simp [numbered, fixed, entity, OrderTerm.renderAll]

theorem Query.exists_of_page (fixed : q.fixed = false) (fields : q.fields ≠ [])
    (paged : q.isPaged = true) {sql : String} (accepted : q.render s = .ok sql) :
    q.fields.map Field.outputName = q.outputNames.map some ∧
      ∃ inner, q.numbered.render s = .ok inner ∧
        sql = pageText (q.skip.getD 0 + 1, q.skip.getD 0 + q.take.getD 0)
          (q.outputNames.map Name.starred) inner := by
  have take := Query.isPaged_iff.1 paged
  rw [Query.render_eq_selectText, selectText] at accepted
  simp only [fixed, Bool.false_eq_true, if_false, if_pos take] at accepted
  obtain ⟨range, entity, outer, inner, within, source, listed, text, rfl⟩ :=
    pagedText_eq_ok_iff.1 accepted
  rw [pageRange_eq _ take] at within
  rw [pageOuter, if_neg (by simpa using fields)] at listed
  obtain ⟨names, same, rfl⟩ := mapM_pageName_eq_ok_iff.1 listed
  have own : q.outputNames = names := by
    have found := congrArg (List.filterMap id) same
    rwa [List.filterMap_map, List.filterMap_map, Function.id_comp, Function.id_comp,
      List.filterMap_some] at found
  refine ⟨own ▸ same, inner, (Query.render_numbered fixed fields source).trans text, ?_⟩
  split at within
  next => cases within; rw [own]
  next => cases within

theorem count_listed {names : List String} {name other : String} (h : name ≠ "*") :
    ((names ++ [other]).map some).count (some name) =
      ((names.filter (· ≠ "*")).map some ++ [some other]).count (some name) := by
  have plain (ns : List String) : (ns.map some).count (some name) = ns.count name :=
    List.count_map_of_injective ns some (Option.some_injective String) name
  rw [List.map_append, List.count_append, List.count_append, plain names, plain (names.filter _),
    List.count_filter (by simpa using h)]
  rfl

/-- Each name of a page stands for one column of the query that it numbers exactly when no two are
equal and none is the name of the numbers. -/
theorem Query.page_refers_iff (s : Settings) {q : Query} (fixed : q.fixed = false)
    (fields : q.fields ≠ []) (paged : q.isPaged = true) {sql : String}
    (accepted : q.render s = .ok sql) :
    (∃ inner, q.numbered.render s = .ok inner ∧
        sql = pageText (q.skip.getD 0 + 1, q.skip.getD 0 + q.take.getD 0)
          (q.outputNames.map Name.starred) inner) ∧
      q.numbered.fields.map s.columnName = (q.outputNames ++ [rowIndexColumn]).map some ∧
      ((∀ name ∈ rowIndexColumn :: q.listedNames,
          (q.numbered.fields.map s.columnName).count (some name) = 1) ↔
        q.listedNames.Nodup ∧ rowIndexColumn ∉ q.listedNames) := by
  obtain ⟨named, text⟩ := Query.exists_of_page fixed fields paged accepted
  have columns : q.numbered.fields.map s.columnName =
      (q.outputNames ++ [rowIndexColumn]).map some := by
    rw [List.map_congr_left fun f _ => s.columnName_eq f, numbered, List.map_append, named,
      List.map_append]
    rfl
  refine ⟨text, columns, ?_⟩
  have proper : ∀ name ∈ rowIndexColumn :: q.listedNames, name ≠ "*" := by
    rw [List.forall_mem_cons]
    exact ⟨by decide, fun name member => by simpa using (List.mem_filter.1 member).2⟩
  have counts : (∀ name ∈ rowIndexColumn :: q.listedNames,
      ((q.outputNames ++ [rowIndexColumn]).map some).count (some name) = 1) ↔
      (q.listedNames.map some ++ [some rowIndexColumn]).Nodup := by
    rw [← once_iff_nodup]
    exact forall₂_congr fun name member => by rw [count_listed (proper name member), listedNames]
  rw [columns, counts, List.nodup_append_comm, List.singleton_append, List.nodup_cons, and_comm,
    List.nodup_map_iff (Option.some_injective _), List.mem_map_of_injective (Option.some_injective _)]

def productsOnPage (categoryName : Option String) : Query :=
  { Query.ofEntity "Products" with
    fields := [⟨.named "Products.name", none⟩, ⟨.named "Categories.name", categoryName⟩]
    joins := [⟨.left, ⟨"Categories", none⟩,
      .compare (.named "Products.category") .eq (.named "Categories.id")⟩]
    take := some 5 }

theorem Query.page_refers_products :
    (productsOnPage (some "category")).fixed = false ∧
      (productsOnPage (some "category")).fields ≠ [] ∧
      (productsOnPage (some "category")).isPaged = true ∧
      (∃ sql, (productsOnPage (some "category")).render (.default 3600) = .ok sql) ∧
      ∀ name ∈ ["__RowIndex", "name", "category"],
        ((productsOnPage (some "category")).numbered.fields.map
          (Settings.default 3600).columnName).count (some name) = 1 := by
  have fields : (productsOnPage (some "category")).fields ≠ [] := List.cons_ne_nil _ _
  obtain ⟨sql, accepted⟩ : ∃ sql, (productsOnPage (some "category")).render (.default 3600) = .ok sql :=
    ⟨_, rfl⟩
  have names : (productsOnPage (some "category")).listedNames = ["name", "category"] := by
    decide +kernel
  obtain ⟨-, -, once⟩ := Query.page_refers_iff (.default 3600) rfl fields (by decide) accepted
  rw [names] at once
  exact ⟨rfl, fields, by decide, ⟨sql, accepted⟩, once.2 (by decide)⟩

theorem name_of_two_columns :
    (productsOnPage none).unpaged.render (.default 3600) = .ok ("SELECT \"Products\".\"name\" \"name\", " ++
        "\"Categories\".\"name\" \"name\" FROM \"Products\" LEFT JOIN \"Categories\" ON " ++
        "(\"Products\".\"category\"=\"Categories\".\"id\")") ∧
      (productsOnPage none).render (.default 3600) = .ok ("SELECT \"name\", \"name\" FROM (SELECT " ++
        "\"Products\".\"name\" \"name\", \"Categories\".\"name\" \"name\", ROW_NUMBER() OVER(ORDER " ++
        "BY NULL) \"__RowIndex\" FROM \"Products\" LEFT JOIN \"Categories\" ON " ++
        "(\"Products\".\"category\"=\"Categories\".\"id\")) t0 WHERE \"__RowIndex\" BETWEEN 1 AND 5 " ++
        "ORDER BY \"__RowIndex\"") ∧
      "name" ∈ (productsOnPage none).listedNames ∧
      ((productsOnPage none).numbered.fields.map (Settings.default 3600).columnName).count (some "name") =
        2 ∧
      ((productsOnPage (some "__RowIndex")).numbered.fields.map
        (Settings.default 3600).columnName).count (some "__RowIndex") = 2 ∧
      ∃ sql, (productsOnPage (some "__RowIndex")).render (.default 3600) = .ok sql :=
  ⟨by decide +kernel, by decide +kernel, by decide +kernel, by decide +kernel, by decide +kernel, _,
    rfl⟩

end OracleSql
