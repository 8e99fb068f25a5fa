import OracleSql.Proofs.Query.Star

set_option autoImplicit false

namespace OracleSql

variable {s : Settings}

theorem Field.exists_renderMembers {fields : List Field}
    (named : ∀ f ∈ fields, f.outputName.isSome) {items : List String}
    (h : Field.renderAll s fields = .ok items) :
    ∃ members, Field.renderMembers s fields = .ok members := by
  induction fields generalizing items with
  | nil => exact ⟨[], rfl⟩
  | cons f rest ih =>
    obtain ⟨item, first, h⟩ := Checked.bind_eq_ok_iff.1 h
    obtain ⟨others, later, -⟩ := Checked.bind_eq_ok_iff.1 h
    obtain ⟨members, rendered⟩ := ih (fun g member => named g (List.mem_cons_of_mem f member)) later
    obtain ⟨name, own⟩ := Option.isSome_iff_exists.1 (named f List.mem_cons_self)
    obtain ⟨e, alias?⟩ := f
    obtain ⟨sql, value, -⟩ := Checked.map_eq_ok_iff.1 first
    refine ⟨(Literal.escapeText name ++ ":" ++ sql) :: members, ?_⟩
    rw [Field.renderMembers, own, memberText, value, rendered]
    rfl

section Accepted

variable {entity : Entity} {items : Checked (List String)} {head : QueryHead} {p : Projection}
  {c : Clauses} {sql : String}

theorem exists_plainText {distinct : Bool} (h : plainText distinct entity items c = .ok sql)
    (columns : List String) :
    (∃ texts, items = .ok texts) ∧ ∃ text, plainText distinct entity (.ok columns) c = .ok text := by
  simp only [plainText, Checked.bind_eq_ok_iff] at h ⊢
  obtain ⟨texts, i, joins, j, filter, f, group, g, order, o, -⟩ := h
  exact ⟨⟨texts, i⟩, _, columns, rfl, joins, j, filter, f, group, g, order, o, rfl⟩

theorem exists_items_of_selectText (h : selectText s head p c = .ok sql) :
    p.names = [] ∨ ∃ items, p.items = .ok items := by
  by_cases fields : p.names = []
  next => exact .inl fields
  next =>
    refine .inr ?_
    have some : ¬p.names.isEmpty = true := by simpa using fields
    unfold selectText at h
    split at h
    next =>
      rw [fixedText, if_neg some] at h
      obtain ⟨items, found, -⟩ := Checked.map_eq_ok_iff.1 h
      exact ⟨items, found⟩
    next =>
      split at h
      next =>
        obtain ⟨_, entity, _, _, -, -, -, inner, -⟩ := pagedText_eq_ok_iff.1 h
        obtain ⟨_, columns⟩ := (exists_plainText inner []).1
        rw [pageItems, if_neg some] at columns
        obtain ⟨items, found, -⟩ := Checked.bind_eq_ok_iff.1 columns
        exact ⟨items, found⟩
      next =>
        split at h
        next => cases h
        next => exact (exists_plainText h []).1

theorem exists_selectText_unnamed (h : selectText s head p c = .ok sql)
    (unpaged : head.fixed = true ∨ ¬0 < head.take.getD 0) (column : String) :
    ∃ text, selectText s head ⟨[none], .ok [column]⟩ c = .ok text := by
  unfold selectText at h ⊢
  by_cases fixed : head.fixed = true
  next =>
    rw [if_pos fixed]
    exact ⟨_, rfl⟩
  next =>
    have take := unpaged.resolve_left fixed
    rw [if_neg fixed, if_neg take] at h ⊢
    split at h
    next => cases h
    next => exact (exists_plainText h [column]).2

theorem selectText_unnamed_page (h : selectText s head p c = .ok sql) (fixed : head.fixed = false)
    (paged : 0 < head.take.getD 0) (items : Checked (List String)) :
    selectText s head ⟨[none], items⟩ c = .error .unnamedPageField := by
  unfold selectText at h ⊢
  simp only [fixed, Bool.false_eq_true, if_false, if_pos paged] at h ⊢
  obtain ⟨range, entity, _, _, within, source, -⟩ := pagedText_eq_ok_iff.1 h
  rw [pagedText_eq, within, source]
  rfl

end Accepted

theorem Query.render_jsonArray (q : Query) : (Call.jsonArray (.select q)).render s =
    (selectText s ⟨q.entity, q.fixed, q.distinct, q.skip, q.take⟩
      ⟨[none], (Field.renderMembers s q.fields).map fun members => [arrayOfObjectsText members]⟩
      ⟨Join.renderAll s q.joins, Predicate.renderOption s q.filter, Expr.renderAll s q.group,
        OrderTerm.renderAll s q.order⟩).map fun sql => "(" ++ sql ++ ")" := by
  cases q
  rw [Call.render, Expr.renderArray]

theorem Query.exists_renderMembers {q : Query} (named : ∀ f ∈ q.fields, f.outputName.isSome)
    {sql : String} (accepted : q.render s = .ok sql) :
    ∃ members, Field.renderMembers s q.fields = .ok members := by
  rw [Query.render_eq_selectText] at accepted
  rcases exists_items_of_selectText accepted with none | ⟨items, rendered⟩
  next =>
    have fields : q.fields = [] := by simpa using none
    exact ⟨[], by rw [fields, Field.renderMembers]⟩
  next => exact Field.exists_renderMembers named rendered

/-- An accepted query whose fields have names is accepted as an array too, unless it has a page. -/
theorem Query.jsonArray_accepts_iff (s : Settings) {q : Query}
    (named : ∀ f ∈ q.fields, f.outputName.isSome) {sql : String} (accepted : q.render s = .ok sql) :
    ((∃ text, (Call.jsonArray (.select q)).render s = .ok text) ↔
        q.fixed = true ∨ q.isPaged = false) ∧
      (q.fixed = false → q.isPaged = true →
        (Call.jsonArray (.select q)).render s = .error .unnamedPageField) := by
  obtain ⟨members, objects⟩ := Query.exists_renderMembers named accepted
  have text := accepted
  rw [Query.render_eq_selectText] at text
  have refused (fixed : q.fixed = false) (paged : q.isPaged = true) :
      (Call.jsonArray (.select q)).render s = .error .unnamedPageField := by
    rw [Query.render_jsonArray, selectText_unnamed_page text fixed (Query.isPaged_iff.1 paged)]
    rfl
  refine ⟨⟨?_, fun whole => ?_⟩, refused⟩
  next =>
    rintro ⟨array, written⟩
    by_contra page
    obtain ⟨fixed, paged⟩ := not_or.1 page
    rw [refused (by simpa using fixed) (by simpa using paged)] at written
    cases written
  next =>
    have unpaged : q.fixed = true ∨ ¬0 < q.take.getD 0 :=
      whole.imp id fun unpaged => by simp [← Query.isPaged_iff, unpaged]
    obtain ⟨array, written⟩ := exists_selectText_unnamed text unpaged (arrayOfObjectsText members)
    refine ⟨"(" ++ array ++ ")", ?_⟩
    rw [Query.render_jsonArray, objects]
    exact congrArg (Except.map _) written

def productNames : Query :=
  { Query.ofEntity "Products" with
    fields := [⟨.named "id", none⟩, ⟨.call (.unary .toUpper (.named "name")), some "name"⟩]
    order := [⟨.named "name", .ascending⟩] }

def firstProductNames : Query :=
  { productNames with take := some 5 }

theorem Query.jsonArray_accepts_products :
    (∀ f ∈ productNames.fields, f.outputName.isSome) ∧
      productNames.render (.default 3600) =
        .ok "SELECT \"id\", UPPER(\"name\") \"name\" FROM \"Products\" ORDER BY \"name\" ASC" ∧
      (∃ text, (Call.jsonArray (.select productNames)).render (.default 3600) = .ok text) ∧
      (Call.jsonArray (.select firstProductNames)).render (.default 3600) = .error .unnamedPageField := by
  have named : ∀ f ∈ productNames.fields, f.outputName.isSome := by
    simp [productNames, Expr.named, Field.outputName, ColumnRef.parse]
  have plain : productNames.render (.default 3600) =
      .ok "SELECT \"id\", UPPER(\"name\") \"name\" FROM \"Products\" ORDER BY \"name\" ASC" := by
    decide +kernel
  obtain ⟨sql, page⟩ : ∃ sql, firstProductNames.render (.default 3600) = .ok sql := ⟨_, rfl⟩
  have fields : ∀ f ∈ firstProductNames.fields, f.outputName.isSome := named
  exact ⟨named, plain, (Query.jsonArray_accepts_iff (.default 3600) named plain).1.2 (.inr rfl),
    (Query.jsonArray_accepts_iff (.default 3600) fields page).2 rfl (by decide)⟩

theorem page_as_array :
    firstProductNames.fields.map Field.outputName = [some "id", some "name"] ∧
      firstProductNames.render (.default 3600) = .ok ("SELECT \"id\", \"name\" FROM (SELECT \"id\", " ++
        "UPPER(\"name\") \"name\", ROW_NUMBER() OVER(ORDER BY \"name\" ASC) \"__RowIndex\" FROM " ++
        "\"Products\") t0 WHERE \"__RowIndex\" BETWEEN 1 AND 5 ORDER BY \"__RowIndex\"") ∧
      (Call.jsonArray (.select firstProductNames)).render (.default 3600) = .error .unnamedPageField ∧
      QueryError.unnamedPageField.message =
        "invalid expression: fields of a paged select need an alias" :=
  ⟨by decide, by decide +kernel, by decide +kernel, by decide +kernel⟩

end OracleSql
