import OracleSql.Proofs.Query.Block

set_option autoImplicit false

namespace OracleSql

namespace Name

def isWord (name : String) : Bool :=
  !name.isEmpty && name.toList.all isWordChar

theorem length_le_length_doubleQuotes (cs : List Char) : cs.length ≤ (doubleQuotes cs).length := by
  induction cs with
  | nil => exact Nat.le_refl 0
  | cons c cs ih =>
    rw [doubleQuotes, List.flatMap_cons, List.length_append, ← doubleQuotes]
    split
    next => simp; omega
    next => simp; omega

theorem doubleQuotes_of_absent {cs : List Char} (h : '"' ∉ cs) : doubleQuotes cs = cs := by
  induction cs with
  | nil => rfl
  | cons c cs ih =>
    obtain ⟨other, later⟩ := not_or.1 (mt List.mem_cons.2 h)
    rw [doubleQuotes, List.flatMap_cons, ← doubleQuotes, ih later, if_neg (Ne.symm other)]
    rfl

theorem quote_ne_self (name : String) : quote name ≠ name := by
  intro same
  have length := congrArg (List.length ∘ String.toList) same
  have grows := length_le_length_doubleQuotes name.toList
  simp [quote] at length
  omega

theorem quoteRuns_append {inWord : Bool} {cs rest : List Char}
    (h : ∀ c ∈ rest, isWordChar c = false) :
    quoteRuns inWord (cs ++ rest) = quoteRuns inWord cs ++ rest := by
  induction cs generalizing inWord with
  | nil =>
    induction rest generalizing inWord with
    | nil => simp
    | cons c rest ih =>
      have outside := h c List.mem_cons_self
      have later : quoteRuns false rest = quoteRuns false [] ++ rest :=
        ih fun d member => h d (List.mem_cons_of_mem c member)
      rw [List.nil_append]
      cases inWord with
      | true => simp [quoteRuns, outside, later]
      | false => simp [quoteRuns, outside, later]
  | cons c cs ih =>
    rw [List.cons_append]
    unfold quoteRuns
    simp only [ih]
    split <;> split <;> rfl

theorem quoteWords_append {name rest : String} (h : ∀ c ∈ rest.toList, isWordChar c = false)
    (unmarked : '"' ∉ rest.toList) : quoteWords (name ++ rest) = quoteWords name ++ rest := by
  have marks : '"' ∈ (name ++ rest).toList ↔ '"' ∈ name.toList := by
    rw [String.toList_append, List.mem_append, or_iff_left unmarked]
  unfold quoteWords
  simp only [List.contains_iff_mem, marks]
  split
  next => rfl
  next => rw [String.toList_append, quoteRuns_append h, String.ofList_append, String.ofList_toList]

theorem quoteRuns_eq_closed_iff {cs : List Char} (h : '"' ∉ cs) :
    quoteRuns true cs = cs ++ ['"'] ↔ cs.all isWordChar = true := by
  induction cs with
  | nil => exact iff_of_true rfl rfl
  | cons c cs ih =>
    obtain ⟨other, later⟩ := not_or.1 (mt List.mem_cons.2 h)
    rw [List.all_cons, Bool.and_eq_true, List.cons_append]
    unfold quoteRuns
    by_cases word : isWordChar c = true
    next => simp [word, ih later]
    next => simp [word, other]

theorem quoteWords_eq_quote_iff (name : String) :
    quoteWords name = quote name ↔ isWord name = true := by
  rw [isWord, Bool.and_eq_true]
  unfold quoteWords
  by_cases marked : '"' ∈ name.toList
  next =>
    rw [if_pos (List.contains_iff_mem.2 marked)]
    refine iff_of_false (quote_ne_self name).symm fun word => ?_
    have mark := List.all_eq_true.1 word.2 _ marked
    rw [isWordChar_mark] at mark
    cases mark
  next =>
    rw [if_neg (mt List.contains_iff_mem.1 marked), quote, String.ofList_inj,
      doubleQuotes_of_absent marked, Bool.not_eq_true', String.isEmpty_eq_false_iff]
    have empty : name ≠ "" ↔ name.toList ≠ [] := not_congr String.toList_eq_nil_iff.symm
    rw [empty]
    cases chars : name.toList with
    | nil => simp [quoteRuns]
    | cons c cs =>
      rw [chars] at marked
      obtain ⟨other, later⟩ := not_or.1 (mt List.mem_cons.2 marked)
      by_cases word : isWordChar c = true
      next => simp [quoteRuns, word, quoteRuns_eq_closed_iff later]
      next => simp [quoteRuns, word, Ne.symm other]

end Name

theorem ColumnRef.parse_dotted {table column : String} (h : '.' ∉ column.toList) :
    parse (table ++ "." ++ column) = ⟨some table, column⟩ := by
  have chars : (table ++ "." ++ column).toList = table.toList ++ '.' :: column.toList := by simp
  have last : afterLastDot (table.toList ++ '.' :: column.toList) = column.toList := by
    have plain : ∀ c ∈ column.toList.reverse, (c != '.') = true := by
      intro c member
      rw [bne_iff_ne]
      rintro rfl
      exact h (List.mem_reverse.1 member)
    rw [afterLastDot, List.reverse_append, List.reverse_cons, List.append_assoc,
      List.takeWhile_append_of_pos plain]
    simp
  have before : (table.toList ++ '.' :: column.toList).length - column.toList.length - 1 =
      table.toList.length := by
    rw [List.length_append, List.length_cons]
    omega
  unfold parse
  simp only [chars, last, before]
  rw [if_pos (by simp)]
  simp

/-- The name that FROM declares, by which other clauses know the entity. -/
def Entity.correlation (e : Entity) : String :=
  match e.alias? with
  | some name => Name.quote name
  | none => Name.quoteWords e.name

def Entity.declaration (e : Entity) : String :=
  match e.alias? with
  | some _ => Name.quoteWords e.name ++ " "
  | none => ""

theorem Entity.render_eq (e : Entity) : e.render = e.declaration ++ e.correlation := by
  unfold render declaration correlation
  cases e.alias? with
  | none => simp
  | some name => rfl

theorem Entity.quoteWords_source_iff (e : Entity) :
    Name.quoteWords e.source = e.correlation ↔ e.alias? = none ∨ Name.isWord e.source = true := by
  obtain ⟨name, alias?⟩ := e
  cases alias? with
  | none => exact iff_of_true rfl (.inl rfl)
  | some own =>
    rw [or_iff_right nofun]
    exact Name.quoteWords_eq_quote_iff own

theorem Entity.quote_source_iff (e : Entity) :
    Name.quote e.source = e.correlation ↔ e.alias? ≠ none ∨ Name.isWord e.source = true := by
  obtain ⟨name, alias?⟩ := e
  cases alias? with
  | none =>
    rw [or_iff_right (fun some => some rfl), ← Name.quoteWords_eq_quote_iff]
    exact eq_comm
  | some own => exact iff_of_true rfl (.inl nofun)

def Item.star (qualifier : String) : Item :=
  ⟨.value (qualifier ++ ".*"), some "*", none⟩

def Query.starBlock (s : Settings) (q : Query) (entity : Entity) (qualifier : String) :
    Checked Block :=
  Block.build q.distinct entity (.ok [.star qualifier]) (Join.renderAll s q.joins)
    (Predicate.renderOption s q.filter) (Expr.renderAll s q.group)
    (q.order.mapM (OrderTerm.key s))

theorem quoteWords_star (source : String) :
    Name.quoteWords (source ++ ".*") = Name.quoteWords source ++ ".*" :=
  Name.quoteWords_append (by decide +kernel) (by decide)

theorem render_parse_star (source : String) :
    (ColumnRef.parse (source ++ ".*")).render = Name.quote source ++ ".*" := by
  have parts : source ++ ".*" = source ++ "." ++ "*" := by
    rw [String.append_assoc]
    rfl
  rw [parts, ColumnRef.parse_dotted (by decide)]
  exact String.append_assoc ..

variable {s : Settings} {q : Query} {e : Entity}

theorem Block.pageItems_star_eq (order : Checked (List SortKey)) :
    pageItems s e ⟨[], .ok []⟩ (order.map (List.map SortKey.text)) =
      ((.ok [.star (Name.quote e.source)] : Checked (List Item)) >>= fun items =>
        order >>= fun order => pure (items ++ [.rowNumber order])).map
          (List.map (Item.text s)) := by
  unfold pageItems
  rw [if_pos (by exact rfl), render_parse_star]
  cases order with
  | error e => rfl
  | ok order => rfl

theorem Query.isPaged_iff : q.isPaged = true ↔ 0 < q.take.getD 0 := by
  unfold isPaged
  cases q.take with
  | none => simp
  | some n => simp

theorem Query.render_star (fixed : q.fixed = false) (fields : q.fields = [])
    (entity : q.entity = some e) (unpaged : q.isPaged = false) :
    q.render s = (q.starBlock s e (Name.quoteWords e.source)).map (Block.text s) := by
  have take : ¬0 < q.take.getD 0 := by
    rw [← isPaged_iff, unpaged]
    exact Bool.false_ne_true
  rw [Query.render_eq_selectText, starBlock, ← Block.plainText_eq_map_build, selectText]
  simp only [fixed, fields, entity, Bool.false_eq_true, if_false, if_neg take]
  rw [OrderTerm.renderAll_eq_map_key, quoteWords_star]
  rfl

theorem Query.render_star_page_iff (fixed : q.fixed = false) (fields : q.fields = [])
    (entity : q.entity = some e) (paged : q.isPaged = true) {sql : String} :
    q.render s = .ok sql ↔ q.skip.getD 0 + q.take.getD 0 < Nat.pow 2 64 ∧
      ∃ b, q.starBlock s e (Name.quote e.source) = .ok b ∧
        sql = pageText (q.skip.getD 0 + 1, q.skip.getD 0 + q.take.getD 0) ["*"]
          (b.numbered.text s) := by
  have take := isPaged_iff.1 paged
  have unordered : (.ok [] : Checked (List String)) =
      (.ok [] : Checked (List SortKey)).map (List.map SortKey.text) := rfl
  rw [Query.render_eq_selectText, selectText]
  simp only [fixed, fields, entity, Bool.false_eq_true, if_false, if_pos take]
  rw [pagedText_eq, pageRange_eq _ take]
  by_cases range : q.skip.getD 0 + q.take.getD 0 < Nat.pow 2 64
  next =>
    rw [if_pos range, and_iff_right range]
    show (plainText _ _ _ _ >>= fun inner => pure _) = _ ↔ _
    rw [OrderTerm.renderAll_eq_map_key, List.map_nil, Field.renderAll,
      Block.pageItems_star_eq, unordered, Block.plainText_eq_map_build, starBlock]
    simp only [Checked.bind_eq_ok_iff, Checked.map_eq_ok_iff]
    constructor
    next =>
      rintro ⟨_, ⟨_, built, rfl⟩, ⟨⟩⟩
      obtain ⟨b, inside, rfl⟩ := Block.build_numbered_iff.1 built
      exact ⟨b, inside, rfl⟩
    next =>
      rintro ⟨b, built, rfl⟩
      exact ⟨_, ⟨_, Block.build_numbered_iff.2 ⟨b, built, rfl⟩, rfl⟩, rfl⟩
  next =>
    rw [if_neg range]
    refine iff_of_false (fun impossible => ?_) fun within => range within.1
    cases impossible

/-- A star names its source as FROM declares it if the name is one word. Otherwise only an alias
comes out right in a page, and only an entity without an alias outside of one. -/
theorem Query.star_correlated (s : Settings) {q : Query} {e : Entity} (fixed : q.fixed = false)
    (fields : q.fields = []) (entity : q.entity = some e) :
    (q.isPaged = false → q.render s =
      (q.starBlock s e (Name.quoteWords e.source)).map (Block.text s)) ∧
      (q.isPaged = true → ∀ sql, q.render s = .ok sql ↔
        q.skip.getD 0 + q.take.getD 0 < Nat.pow 2 64 ∧
          ∃ b, q.starBlock s e (Name.quote e.source) = .ok b ∧
            sql = pageText (q.skip.getD 0 + 1, q.skip.getD 0 + q.take.getD 0) ["*"]
              (b.numbered.text s)) ∧
      e.render = e.declaration ++ e.correlation ∧
      (Name.quoteWords e.source = Name.quote e.source ↔ Name.isWord e.source = true) ∧
      (Name.quoteWords e.source = e.correlation ↔
        e.alias? = none ∨ Name.isWord e.source = true) ∧
      (Name.quote e.source = e.correlation ↔
        e.alias? ≠ none ∨ Name.isWord e.source = true) :=
  ⟨Query.render_star fixed fields entity, fun paged _ =>
    Query.render_star_page_iff fixed fields entity paged, e.render_eq,
    Name.quoteWords_eq_quote_iff e.source, e.quoteWords_source_iff, e.quote_source_iff⟩

def firstEmployees : Query :=
  { Query.ofEntity "HR.Employees" with take := some 5 }

theorem Query.star_correlated_employees :
    firstEmployees.fixed = false ∧ firstEmployees.fields = [] ∧
      firstEmployees.entity = some ⟨"HR.Employees", none⟩ ∧ firstEmployees.isPaged = true ∧
      (∃ b, firstEmployees.starBlock (.default 3600) ⟨"HR.Employees", none⟩ "\"HR.Employees\"" = .ok b ∧
        firstEmployees.render (.default 3600) = .ok (pageText (1, 5) ["*"] (b.numbered.text (.default 3600)))) ∧
      Name.quoteWords "HR.Employees" = Entity.correlation ⟨"HR.Employees", none⟩ ∧
      Name.quote "HR.Employees" ≠ Entity.correlation ⟨"HR.Employees", none⟩ := by
  have paged : firstEmployees.isPaged = true := by decide
  have entity : firstEmployees.entity = some ⟨"HR.Employees", none⟩ := rfl
  obtain ⟨-, page, -, -, plain, quoted⟩ := Query.star_correlated (.default 3600) rfl rfl entity
  obtain ⟨sql, written⟩ : ∃ sql, firstEmployees.render (.default 3600) = .ok sql := ⟨_, rfl⟩
  obtain ⟨-, b, built, text⟩ := (page paged sql).1 written
  have name : Name.quote "HR.Employees" = "\"HR.Employees\"" := by decide
  have several : Name.isWord "HR.Employees" ≠ true := by decide +kernel
  refine ⟨rfl, rfl, entity, paged, ⟨b, ?_, ?_⟩, plain.2 (.inl rfl), fun same => ?_⟩
  next => exact name ▸ built
  next => exact text ▸ written
  next => exact (quoted.1 same).elim (fun some => some rfl) several

-- The star of a page takes a dotted name as one, and outside of a page an alias as two.
theorem star_of_several_words :
    firstEmployees.render (.default 3600) = .ok ("SELECT * FROM (SELECT \"HR.Employees\".*, " ++
        "ROW_NUMBER() OVER(ORDER BY NULL) \"__RowIndex\" FROM \"HR\".\"Employees\") t0 WHERE " ++
        "\"__RowIndex\" BETWEEN 1 AND 5 ORDER BY \"__RowIndex\"") ∧
      firstEmployees.unpaged.render (.default 3600) =
        .ok "SELECT \"HR\".\"Employees\".* FROM \"HR\".\"Employees\"" ∧
      (firstEmployees.unpaged.withAlias "my boss").render (.default 3600) =
        .ok "SELECT \"my\" \"boss\".* FROM \"HR\".\"Employees\" \"my boss\"" :=
  ⟨by decide +kernel, by decide +kernel, by decide +kernel⟩

end OracleSql
