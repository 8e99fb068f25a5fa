import Mathlib.Data.List.ReduceOption
import OracleSql.Proofs.Query.Grouping

set_option autoImplicit false

namespace OracleSql

structure SortKey where
  sql : String
  direction : Direction
  deriving DecidableEq

def SortKey.text (k : SortKey) : String :=
  k.sql ++ " " ++ k.direction.keyword

inductive Cell where
  | value (sql : String)
  | rowNumber (order : List SortKey)
  deriving DecidableEq

def Cell.text : Cell → String
  | .value sql => sql
  | .rowNumber order => rowNumberText (order.map SortKey.text)

structure Item where
  cell : Cell
  name : Option String
  alias? : Option String
  deriving DecidableEq

def Item.text (s : Settings) (i : Item) : String :=
  s.withAlias i.cell.text i.alias?

def Item.rowNumber (order : List SortKey) : Item :=
  ⟨.rowNumber order, some rowIndexColumn, some rowIndexColumn⟩

/-- One select; its source is what is written from the entity up to the groups. -/
structure Block where
  distinct : Bool
  items : List Item
  source : String
  order : List SortKey
  deriving DecidableEq

namespace Block

def text (s : Settings) (b : Block) : String :=
  "SELECT " ++ (if b.distinct then "DISTINCT " else "") ++ commaList (b.items.map (Item.text s)) ++
    " FROM " ++ b.source ++ clauseText " ORDER BY " (b.order.map SortKey.text)

def names (b : Block) : List (Option String) :=
  b.items.map Item.name

def numbered (b : Block) : Block :=
  { b with items := b.items ++ [.rowNumber b.order], order := [] }

theorem names_numbered (b : Block) : b.numbered.names = b.names ++ [some rowIndexColumn] := by
  simp [names, numbered, Item.rowNumber]

end Block

/-- The rows of a block whose numbers are within a range, with some of their columns. -/
structure Page where
  columns : List String
  inner : Block
  first : Nat
  last : Nat
  deriving DecidableEq

def Page.text (s : Settings) (p : Page) : String :=
  pageText (p.first, p.last) (p.columns.map Name.quote) (p.inner.text s)

def Block.page (b : Block) (skip take : Nat) : Page :=
  ⟨b.names.reduceOption, b.numbered, skip + 1, skip + take⟩

def OrderTerm.key (s : Settings) (t : OrderTerm) : Checked SortKey :=
  (t.expr.render s).map fun sql => ⟨sql, t.direction⟩

def Field.item (s : Settings) (f : Field) : Checked Item :=
  (f.expr.render s).map fun sql => ⟨.value sql, f.outputName, s.printedAlias f.expr f.alias?⟩

def Block.build (distinct : Bool) (entity : Entity) (items : Checked (List Item))
    (joins : Checked (List String)) (filter : Checked (Option String))
    (group : Checked (List String)) (order : Checked (List SortKey)) : Checked Block := do
  let items ← items
  let joins ← joins
  let filter ← filter
  let group ← group
  let order ← order
  pure ⟨distinct, items, entity.render ++ String.join (joins.map (" " ++ ·)) ++ whereText filter ++
    clauseText " GROUP BY " group, order⟩

def Query.block (s : Settings) (q : Query) : Checked Block :=
  match q.entity with
  | none => .error .missingEntity
  | some entity =>
      Block.build q.distinct entity (q.fields.mapM (Field.item s)) (Join.renderAll s q.joins)
        (Predicate.renderOption s q.filter) (Expr.renderAll s q.group)
        (q.order.mapM (OrderTerm.key s))

def Query.unpaged (q : Query) : Query :=
  { q with skip := none, take := none }

variable {s : Settings}

theorem Checked.map_mapM_cons {α β γ : Type} (f : α → Checked β) (g : β → γ) (a : α) (rest : List α) :
    ((a :: rest).mapM f).map (List.map g) =
      (f a).map g >>= fun b => ((rest.mapM f).map (List.map g)) >>= fun rest => pure (b :: rest) := by
  rw [List.mapM_cons]
  cases f a with
  | error e => rfl
  | ok b =>
    cases rest.mapM f with
    | error e => rfl
    | ok rest => rfl

theorem Field.renderAll_eq_map_item (fields : List Field) :
    Field.renderAll s fields = (fields.mapM (Field.item s)).map (List.map (Item.text s)) := by
  induction fields with
  | nil => rfl
  | cons f rest ih =>
    have first : f.render s = (Field.item s f).map (Item.text s) := by
      obtain ⟨e, alias?⟩ := f
      unfold Field.render Field.item
      cases e.render s with
      | ok sql => rfl
      | error fault => rfl
    rw [Field.renderAll, ih, first, Checked.map_mapM_cons]

theorem OrderTerm.renderAll_eq_map_key (order : List OrderTerm) :
    OrderTerm.renderAll s order = (order.mapM (OrderTerm.key s)).map (List.map SortKey.text) := by
  induction order with
  | nil => rfl
  | cons t rest ih =>
    obtain ⟨e, direction⟩ := t
    rw [OrderTerm.renderAll, ih, Checked.map_mapM_cons]
    unfold OrderTerm.key
    cases e.render s with
    | ok sql => rfl
    | error fault => rfl

theorem Field.names_of_mapM_item {fields : List Field} {items : List Item}
    (h : fields.mapM (Field.item s) = .ok items) :
    items.map Item.name = fields.map Field.outputName := by
  induction fields generalizing items with
  | nil =>
    cases h
    rfl
  | cons f rest ih =>
    rw [List.mapM_cons] at h
    obtain ⟨item, first, h⟩ := Checked.bind_eq_ok_iff.1 h
    obtain ⟨others, later, h⟩ := Checked.bind_eq_ok_iff.1 h
    obtain ⟨sql, -, rfl⟩ := Checked.map_eq_ok_iff.1 first
    cases h
    rw [List.map_cons, List.map_cons, ih later]

theorem Block.plainText_eq_map_build (distinct : Bool) (entity : Entity)
    (items : Checked (List Item)) (joins : Checked (List String)) (filter : Checked (Option String))
    (group : Checked (List String)) (order : Checked (List SortKey)) :
    plainText distinct entity (items.map (List.map (Item.text s)))
        ⟨joins, filter, group, order.map (List.map SortKey.text)⟩ =
      (Block.build distinct entity items joins filter group order).map (Block.text s) := by
  cases items with
  | error e => rfl
  | ok items =>
  cases joins with
  | error e => rfl
  | ok joins =>
  cases filter with
  | error e => rfl
  | ok filter =>
  cases group with
  | error e => rfl
  | ok group =>
  cases order with
  | error e => rfl
  | ok order =>
    refine congrArg Except.ok ?_
    simp only [Block.text, String.append_assoc]

theorem pagedText_eq_ok_iff {head : QueryHead} {p : Projection} {c : Clauses} {sql : String} :
    pagedText s head p c = .ok sql ↔ ∃ range entity outer inner,
      pageRange (head.skip.getD 0) (head.take.getD 0) = .ok range ∧ head.entity = some entity ∧
        pageOuter p.names = .ok outer ∧
        plainText head.distinct entity (pageItems s entity p c.order) { c with order := .ok [] } =
          .ok inner ∧ sql = pageText range outer inner := by
  rw [pagedText_eq]
  cases head.entity with
  | none =>
    refine iff_of_false (fun written => ?_) fun ⟨_, _, _, _, _, source, _⟩ => nomatch source
    obtain ⟨_, -, impossible⟩ := Checked.bind_eq_ok_iff.1 written
    cases impossible
  | some entity =>
    simp only [Checked.bind_eq_ok_iff]
    constructor
    next =>
      rintro ⟨range, within, outer, names, inner, text, ⟨⟩⟩
      exact ⟨range, entity, outer, inner, within, rfl, names, text, rfl⟩
    next =>
      rintro ⟨range, _, outer, inner, within, ⟨⟩, names, text, rfl⟩
      exact ⟨range, within, outer, names, inner, text, rfl⟩

theorem Query.render_eq_selectText (q : Query) :
    q.render s = selectText s ⟨q.entity, q.fixed, q.distinct, q.skip, q.take⟩
      ⟨q.fields.map Field.outputName, Field.renderAll s q.fields⟩
      ⟨Join.renderAll s q.joins, Predicate.renderOption s q.filter, Expr.renderAll s q.group,
        OrderTerm.renderAll s q.order⟩ := by
  cases q
  rw [Query.render]

theorem Query.render_unpaged {q : Query} (fixed : q.fixed = false) (fields : q.fields ≠ []) :
    q.unpaged.render s = (q.block s).map (Block.text s) := by
  have items : (q.fields.map Field.outputName).isEmpty = false := by
    rw [List.isEmpty_map]
    simpa using fields
  rw [Query.render_eq_selectText, Query.block, Query.unpaged, selectText]
  simp only [fixed, Bool.false_eq_true, if_false, Option.getD_none, Nat.lt_irrefl, items]
  rw [Field.renderAll_eq_map_item, OrderTerm.renderAll_eq_map_key]
  cases q.entity with
  | none => rfl
  | some entity => exact Block.plainText_eq_map_build ..

theorem map_some_reduceOption {names : List (Option String)} (h : ∀ name ∈ names, name.isSome) :
    names.reduceOption.map some = names := by
  induction names with
  | nil => rfl
  | cons name rest ih =>
    obtain ⟨n, rfl⟩ := Option.isSome_iff_exists.1 (h name List.mem_cons_self)
    rw [List.reduceOption_cons_of_some, List.map_cons,
      ih fun name member => h name (List.mem_cons_of_mem _ member)]

def Name.starred (name : String) : String :=
  if name = "*" then "*" else quote name

theorem mapM_pageName_eq_ok_iff {names : List (Option String)} {outer : List String} :
    names.mapM pageName = .ok outer ↔
      ∃ ns : List String, names = ns.map some ∧ outer = ns.map Name.starred := by
  induction names generalizing outer with
  | nil =>
    constructor
    next => rintro ⟨⟩; exact ⟨[], rfl, rfl⟩
    next => rintro ⟨ns, none, rfl⟩; rw [List.map_eq_nil_iff.1 none.symm]; rfl
  | cons name? rest ih =>
    rw [List.mapM_cons, Checked.bind_eq_ok_iff]
    constructor
    next =>
      rintro ⟨first, item, written⟩
      obtain ⟨others, later, ⟨⟩⟩ := Checked.bind_eq_ok_iff.1 written
      obtain ⟨ns, rfl, rfl⟩ := ih.1 later
      cases name? with
      | none => cases item
      | some name => cases item; exact ⟨name :: ns, rfl, rfl⟩
    next =>
      rintro ⟨ns, same, rfl⟩
      cases ns with
      | nil => cases same
      | cons name ns =>
        obtain ⟨rfl, rfl⟩ := List.cons.inj same
        exact ⟨_, rfl, Checked.bind_eq_ok_iff.2 ⟨_, ih.2 ⟨ns, rfl, rfl⟩, rfl⟩⟩

theorem Block.pageOuter_eq {names : List (Option String)} (h : names ≠ [])
    (named : ∀ name ∈ names, ∃ n, name = some n ∧ n ≠ "*") :
    pageOuter names = .ok (names.reduceOption.map Name.quote) := by
  have all : names.reduceOption.map some = names := by
    refine map_some_reduceOption fun name member => ?_
    obtain ⟨n, rfl, -⟩ := named name member
    rfl
  have quoted : names.reduceOption.map Name.starred = names.reduceOption.map Name.quote := by
    refine List.map_congr_left fun n member => if_neg ?_
    obtain ⟨_, ⟨⟩, other⟩ := named (some n) (all ▸ List.mem_map_of_mem member)
    exact other
  rw [pageOuter, if_neg (by simpa using h), mapM_pageName_eq_ok_iff, ← quoted]
  exact ⟨names.reduceOption, all.symm, rfl⟩

theorem Block.pageItems_eq (entity : Entity) {names : List (Option String)} (h : names ≠ [])
    (items : Checked (List Item)) (order : Checked (List SortKey)) :
    pageItems s entity ⟨names, items.map (List.map (Item.text s))⟩
        (order.map (List.map SortKey.text)) =
      (items >>= fun items => order >>= fun order => pure (items ++ [.rowNumber order])).map
        (List.map (Item.text s)) := by
  unfold pageItems
  rw [if_neg (by simpa using h)]
  cases items with
  | error e => rfl
  | ok items =>
  cases order with
  | error e => rfl
  | ok order =>
    refine congrArg Except.ok ?_
    simp [Item.text, Item.rowNumber, Cell.text]

theorem Block.build_numbered_iff {distinct : Bool} {entity : Entity} {items : Checked (List Item)}
    {joins : Checked (List String)} {filter : Checked (Option String)}
    {group : Checked (List String)} {order : Checked (List SortKey)} {b : Block} :
    Block.build distinct entity
        (items >>= fun items => order >>= fun order => pure (items ++ [.rowNumber order]))
        joins filter group (.ok []) = .ok b ↔
      ∃ inner, Block.build distinct entity items joins filter group order = .ok inner ∧
        b = inner.numbered := by
  -- The faults of the order come first in a numbered block, so only the results are compared.
  simp only [Block.build, Checked.bind_eq_ok_iff]
  constructor
  next =>
    rintro ⟨_, ⟨items, i, order, o, ⟨⟩⟩, joins, j, filter, f, group, g, _, ⟨⟩, ⟨⟩⟩
    exact ⟨_, ⟨items, i, joins, j, filter, f, group, g, order, o, rfl⟩, rfl⟩
  next =>
    rintro ⟨_, ⟨items, i, joins, j, filter, f, group, g, order, o, ⟨⟩⟩, rfl⟩
    exact ⟨_, ⟨items, i, order, o, rfl⟩, joins, j, filter, f, group, g, [], rfl, rfl⟩

theorem Query.names_block {q : Query} {b : Block} (h : q.block s = .ok b) :
    b.names = q.fields.map Field.outputName := by
  unfold Query.block at h
  split at h
  next => cases h
  next =>
    obtain ⟨items, each, h⟩ := Checked.bind_eq_ok_iff.1 h
    simp only [Checked.bind_eq_ok_iff] at h
    obtain ⟨_, -, _, -, _, -, _, -, ⟨⟩⟩ := h
    exact Field.names_of_mapM_item each

theorem pageRange_eq (skip : Nat) {take : Nat} (some : 0 < take) : pageRange skip take =
    if skip + take < Nat.pow 2 64 then .ok (skip + 1, skip + take)
    else .error (.pageRange skip take) := by
  have bound : Nat.pow 2 64 = 18446744073709551616 := rfl
  unfold pageRange
  refine if_congr ?_ rfl rfl
  simp only [Text.word64_holds_iff]
  omega

theorem Query.render_paged_iff {q : Query} (fixed : q.fixed = false) (fields : q.fields ≠ [])
    (named : ∀ f ∈ q.fields, ∃ name, f.outputName = some name ∧ name ≠ "*")
    (take : 0 < q.take.getD 0) (range : q.skip.getD 0 + q.take.getD 0 < Nat.pow 2 64) {sql : String} :
    q.render s = .ok sql ↔
      ∃ b, q.block s = .ok b ∧ sql = (b.page (q.skip.getD 0) (q.take.getD 0)).text s := by
  have names : q.fields.map Field.outputName ≠ [] := by
    simpa using fields
  have outer := Block.pageOuter_eq names (by simpa using named)
  have unordered : (.ok [] : Checked (List String)) =
      (.ok [] : Checked (List SortKey)).map (List.map SortKey.text) := rfl
  have columns {b : Block} (h : q.block s = .ok b) :
      pageText (q.skip.getD 0 + 1, q.skip.getD 0 + q.take.getD 0)
        ((q.fields.map Field.outputName).reduceOption.map Name.quote) (b.numbered.text s) =
        (b.page (q.skip.getD 0) (q.take.getD 0)).text s := by
    rw [← Query.names_block h, Block.page, Page.text]
  rw [Query.render_eq_selectText, selectText]
  simp only [fixed, Bool.false_eq_true, if_false, if_pos take]
  rw [pagedText_eq, pageRange_eq _ take, if_pos range, Field.renderAll_eq_map_item,
    OrderTerm.renderAll_eq_map_key]
  cases source : q.entity with
  | none =>
    unfold Query.block
    rw [source]
    exact ⟨nofun, fun ⟨_, h, _⟩ => nomatch h⟩
  | some entity =>
    have block : q.block s = Block.build q.distinct entity (q.fields.mapM (Field.item s))
        (Join.renderAll s q.joins) (Predicate.renderOption s q.filter) (Expr.renderAll s q.group)
        (q.order.mapM (OrderTerm.key s)) := by
      rw [Query.block, source]
    show (pageOuter _ >>= fun outer => plainText _ _ _ _ >>= fun inner => pure _) = _ ↔ _
    rw [outer, Block.pageItems_eq entity names, unordered, Block.plainText_eq_map_build]
    simp only [Checked.bind_eq_ok_iff, Checked.map_eq_ok_iff]
    constructor
    next =>
      rintro ⟨_, ⟨⟩, _, ⟨_, built, rfl⟩, ⟨⟩⟩
      obtain ⟨b, inside, rfl⟩ := Block.build_numbered_iff.1 built
      have inside := block.trans inside
      exact ⟨b, inside, columns inside⟩
    next =>
      rintro ⟨b, built, rfl⟩
      have numbered := Block.build_numbered_iff.2 ⟨b, block.symm.trans built, rfl⟩
      exact ⟨_, rfl, _, ⟨_, numbered, rfl⟩, congrArg Except.ok (columns built)⟩

end OracleSql
