import OracleSql.Proofs.Schema.Execution

set_option autoImplicit false

namespace OracleSql

open Sql

namespace Sql

def Token.quote? : Token → Option (Quoted × List Char)
  | .plain _ => none
  | .quoted kind content => some (kind, content)

def quotes (ts : List Token) : List (Quoted × List Char) :=
  ts.filterMap Token.quote?

def identifiers (names : List String) : List (Quoted × List Char) :=
  names.map fun name => (.name, name.toList)

@[simp] theorem quotes_append (ts us : List Token) : quotes (ts ++ us) = quotes ts ++ quotes us :=
  List.filterMap_append

@[simp] theorem quotes_plains (s : String) : quotes (plains s) = [] := by
  simp [quotes, plains, Token.quote?]

@[simp] theorem map_blank_plains (s : String) : (plains s).map Token.blank = plains s := by
  simp [plains, Token.blank]

@[simp] theorem identifiers_append (xs ys : List String) :
    identifiers (xs ++ ys) = identifiers xs ++ identifiers ys :=
  List.map_append

theorem flatMap_identifiers {α : Type} (xs : List α) (name : α → String) :
    xs.flatMap (fun x => identifiers [name x]) = identifiers (xs.map name) := by
  simp [identifiers, ← List.map_eq_flatMap, Function.comp_def]

@[simp] theorem quotes_intercalate (separator : String) (parts : List (List Token)) :
    quotes ((plains separator).intercalate parts) = parts.flatMap quotes := by
  induction parts with
  | nil => rfl
  | cons part rest ih =>
    cases rest with
    | nil => simp
    | cons => simp [List.intercalate_cons_cons, ih]

@[simp] theorem map_blank_intercalate (separator : String) (parts : List (List Token)) :
    ((plains separator).intercalate parts).map Token.blank =
      (plains separator).intercalate (parts.map (List.map Token.blank)) := by
  induction parts with
  | nil => rfl
  | cons part rest ih =>
    cases rest with
    | nil => simp
    | cons => simp [List.intercalate_cons_cons, ih]

@[simp] theorem quotes_enclosed (parts : List (List Token)) :
    quotes (enclosed parts) = parts.flatMap quotes := by
  simp [enclosed, listed]

@[simp] theorem map_blank_enclosed (parts : List (List Token)) :
    (enclosed parts).map Token.blank = enclosed (parts.map (List.map Token.blank)) := by
  simp [enclosed, listed]

end Sql

namespace ObjectName

def names (n : ObjectName) : List String :=
  n.owner.toList ++ [n.name]

def nameless (n : ObjectName) : ObjectName :=
  ⟨n.owner.map fun _ => "", ""⟩

@[simp] theorem nameless_nameless (n : ObjectName) : n.nameless.nameless = n.nameless := by
  simp [nameless, Function.comp_def]

@[simp] theorem quotes_tokens (n : ObjectName) : quotes n.tokens = identifiers n.names := by
  obtain ⟨_ | owner, name⟩ := n <;> rfl

@[simp] theorem map_blank_tokens (n : ObjectName) :
    n.tokens.map Token.blank = n.nameless.tokens := by
  obtain ⟨_ | owner, name⟩ := n <;> rfl

end ObjectName

namespace TableItem

theorem written_name (name : String) : Written (Name.quote name).toList (nameTokens name) :=
  written_quote name

@[simp] theorem quotes_nameTokens (name : String) :
    quotes (nameTokens name) = identifiers [name] := rfl

theorem quotes_names (names : List String) :
    (names.map nameTokens).flatMap quotes = identifiers names := by
  simpa [List.flatMap_map] using flatMap_identifiers names id

@[simp] theorem map_blank_nameTokens (name : String) :
    (nameTokens name).map Token.blank = nameTokens "" := rfl

end TableItem

namespace ColumnClause

def nameless (c : ColumnClause) : ColumnClause :=
  { c with name := "" }

@[simp] theorem nameless_nameless (c : ColumnClause) : c.nameless.nameless = c.nameless := rfl

theorem tokens_eq (c : ColumnClause) :
    c.tokens = TableItem.nameTokens c.name ++ plains (" " ++ (c.type ++ nullability c.nullable)) := by
  simp [tokens, TableItem.nameTokens, plains]

@[simp] theorem quotes_tokens (c : ColumnClause) : quotes c.tokens = identifiers [c.name] := by
  rw [tokens_eq, quotes_append, quotes_plains, List.append_nil, TableItem.quotes_nameTokens]

@[simp] theorem map_blank_tokens (c : ColumnClause) :
    c.tokens.map Token.blank = c.nameless.tokens := by
  rw [tokens_eq, tokens_eq, List.map_append, map_blank_plains, TableItem.map_blank_nameTokens]
  rfl

end ColumnClause

def Attribute.nameless (a : Attribute) : Attribute :=
  { a with name := "" }

@[simp] theorem Attribute.clause_nameless (a : Attribute) : a.nameless.clause = a.clause.nameless :=
  rfl

def Modification.nameless (m : Modification) : Modification :=
  { m with target := m.target.nameless }

@[simp] theorem Modification.clause_nameless (m : Modification) :
    m.nameless.clause = m.clause.nameless := rfl

namespace SchemaChange

-- The query of a view is the caller's own text.
def select : SchemaChange → String
  | .createView _ select => select
  | _ => ""

def withoutSelect : SchemaChange → SchemaChange
  | .createView view _ => .createView view ""
  | c => c

theorem statements_eq (c : SchemaChange) :
    c.statements = c.withoutSelect.statements.map (· ++ c.select) := by
  cases c with
  | createView view sql => simp [statements, withoutSelect, select]
  | _ => simp [withoutSelect, select]

def keyNames (table : ObjectName) (attributes : List Attribute) : List String :=
  match (attributes.filter Attribute.primary).map Attribute.name with
  | [] => []
  | columns => (table.name ++ "_pk") :: columns

/-- The names that are written. -/
def names : SchemaChange → List String
  | .createTable table attributes =>
      table.names ++ (Attribute.stored attributes).map Attribute.name ++
        keyNames table (Attribute.stored attributes)
  | .addColumns table attributes =>
      table.names ++ (Attribute.stored attributes).map Attribute.name
  | .modifyColumns table columns => table.names ++ columns.map fun m => m.target.name
  | .dropTable table => table.names
  | .createSequence name | .restartSequence name _ | .dropIndex name => [name]
  | .createIndex name table columns => name :: (table.names ++ columns)
  | .createView view _ | .dropView view => view.names

def stored : SchemaChange → SchemaChange
  | .createTable table attributes => .createTable table (Attribute.stored attributes)
  | .addColumns table attributes => .addColumns table (Attribute.stored attributes)
  | .modifyColumns table columns =>
      .modifyColumns table (columns.filter fun m => !m.target.oneToMany)
  | c => c

def nameless : SchemaChange → SchemaChange
  | .createTable table attributes =>
      .createTable table.nameless (attributes.map Attribute.nameless)
  | .addColumns table attributes => .addColumns table.nameless (attributes.map Attribute.nameless)
  | .modifyColumns table columns => .modifyColumns table.nameless (columns.map Modification.nameless)
  | .dropTable table => .dropTable table.nameless
  | .createSequence _ => .createSequence ""
  | .restartSequence _ start => .restartSequence "" start
  | .createIndex _ table columns => .createIndex "" table.nameless (columns.map fun _ => "")
  | .dropIndex _ => .dropIndex ""
  | .createView view _ => .createView view.nameless ""
  | .dropView view => .dropView view.nameless

def tokens : SchemaChange → List (List Token)
  | .createTable table attributes =>
      [TableStatement.tokens "CREATE TABLE " table " "
        ((tableItems table attributes).map TableItem.tokens)]
  | .addColumns table attributes =>
      if attributes.isEmpty then []
      else
        [TableStatement.tokens "ALTER TABLE " table " ADD "
          ((Attribute.stored attributes).map fun a => a.clause.tokens)]
  | .modifyColumns table columns =>
      if columns.isEmpty then []
      else
        [TableStatement.tokens "ALTER TABLE " table " MODIFY "
          (columns.map fun m => m.clause.tokens)]
  | .dropTable table => [plains "DROP TABLE " ++ table.tokens]
  | .createSequence name =>
      [plains "CREATE SEQUENCE " ++ TableItem.nameTokens name ++
        plains " START WITH 1 INCREMENT BY 1"]
  | .restartSequence name start =>
      [plains "ALTER SEQUENCE " ++ TableItem.nameTokens name ++
        plains (" RESTART START WITH " ++ toString start ++ " INCREMENT BY 1")]
  | .createIndex name table columns =>
      [plains "CREATE INDEX " ++ TableItem.nameTokens name ++ plains " ON " ++ table.tokens ++
        plains "(" ++ (plains ",").intercalate (columns.map TableItem.nameTokens) ++ plains ")"]
  | .dropIndex name => [plains "DROP INDEX " ++ TableItem.nameTokens name]
  | .createView view _ => [plains "CREATE VIEW " ++ view.tokens ++ plains " AS "]
  | .dropView view => [plains "DROP VIEW " ++ view.tokens]

theorem written_definition (a : Attribute) : Written a.definition.toList a.clause.tokens := by
  rw [a.definition_eq]
  exact ColumnClause.written_render a.isType_clause

theorem written_modification (m : Modification) : Written m.definition.toList m.clause.tokens := by
  rw [m.definition_eq]
  exact ColumnClause.written_render m.isType_clause

theorem written_alterText (table : ObjectName) {action spaced : String}
    (spaced_eq : " " ++ action ++ " " = spaced) (plain : ∀ c ∈ spaced.toList, IsPlain c)
    (some : spaced ≠ "") {α : Type} {xs : List α} {render : α → String}
    {itemTokens : α → List Token} (written : ∀ x ∈ xs, Written (render x).toList (itemTokens x)) :
    Written (alterText table action (xs.map render)).toList
      (TableStatement.tokens "ALTER TABLE " table spaced (xs.map itemTokens)) := by
  rw [alterText_eq, spaced_eq]
  exact scan_eq_some_iff.1 (TableStatement.scan_text _ _ (by decide) plain some table written)

theorem written_tableText (table : ObjectName) (attributes : List Attribute) :
    Written (tableText table attributes).toList
      (TableStatement.tokens "CREATE TABLE " table " "
        ((tableItems table attributes).map TableItem.tokens)) := by
  rw [tableText_eq]
  exact scan_eq_some_iff.1 (TableStatement.scan_text _ _ (by decide) (by decide) (by decide) table
    fun _ member => TableItem.written_render (isTyped_of_mem_tableItems member))

theorem written_restart (name : String) (start : Int) :
    Written ("ALTER SEQUENCE " ++ Name.quote name ++ " RESTART START WITH " ++ toString start ++
      " INCREMENT BY 1").toList
      (plains "ALTER SEQUENCE " ++ TableItem.nameTokens name ++
        plains (" RESTART START WITH " ++ toString start ++ " INCREMENT BY 1")) := by
  have rest : ∀ c ∈ (" RESTART START WITH " ++ toString start ++ " INCREMENT BY 1").toList,
      IsPlain c := by
    intro c member
    simp only [String.toList_append, List.mem_append] at member
    rcases member with (before | number) | after
    next => exact (by decide : ∀ c ∈ " RESTART START WITH ".toList, IsPlain c) c before
    next => exact isPlain_of_isBare (bare_toString_int start c number)
    next => exact (by decide : ∀ c ∈ " INCREMENT BY 1".toList, IsPlain c) c after
  have all := ((TableItem.written_name name).after "ALTER SEQUENCE " (by decide)).before _ rest
  simpa only [String.append_assoc] using all

theorem written_indexText (name : String) (table : ObjectName) (columns : List String) :
    Written ("CREATE INDEX " ++ Name.quote name ++ " ON " ++ table.render ++ "(" ++
      ",".intercalate (columns.map Name.quote) ++ ")").toList
      (plains "CREATE INDEX " ++ TableItem.nameTokens name ++ plains " ON " ++ table.tokens ++
        plains "(" ++ (plains ",").intercalate (columns.map TableItem.nameTokens) ++
          plains ")") := by
  have names : List.Forall₂ (fun x part => Written x.toList part) (columns.map Name.quote)
      (columns.map TableItem.nameTokens) := by
    rw [List.forall₂_map_left_iff, List.forall₂_map_right_iff, List.forall₂_same]
    exact fun column _ => written_quote column
  have listed := written_intercalate (by decide) (by decide : "," ≠ "") names
  have opening := ((TableItem.written_name name).after "CREATE INDEX " (by decide)).between
    table.written_render " ON " (by decide) (by decide)
  exact (opening.between listed "(" (by decide) (by decide)).before ")" (by decide)

theorem written_statements (c : SchemaChange) :
    List.Forall₂ (fun (sql : String) ts => Written sql.toList ts) c.withoutSelect.statements
      c.tokens := by
  cases c with
  | createTable table attributes => exact .cons (written_tableText table attributes) .nil
  | addColumns table attributes =>
    simp only [withoutSelect, statements, tokens]
    split
    next => exact .nil
    next =>
      exact .cons (written_alterText table (by decide +kernel) (by decide) (by decide)
        fun a _ => written_definition a) .nil
  | modifyColumns table columns =>
    simp only [withoutSelect, statements, tokens]
    split
    next => exact .nil
    next =>
      exact .cons (written_alterText table (by decide +kernel) (by decide) (by decide)
        fun m _ => written_modification m) .nil
  | dropTable table => exact .cons (table.written_render.after _ (by decide)) .nil
  | createSequence name =>
    exact .cons (((written_quote name).after _ (by decide)).before _ (by decide)) .nil
  | restartSequence name start => exact .cons (written_restart name start) .nil
  | createIndex name table columns => exact .cons (written_indexText name table columns) .nil
  | dropIndex name => exact .cons ((written_quote name).after _ (by decide)) .nil
  | createView view select =>
    refine .cons ?_ .nil
    rw [String.append_empty]
    exact (view.written_render.after _ (by decide)).before _ (by decide)
  | dropView view => exact .cons (view.written_render.after _ (by decide)) .nil

theorem quotes_keyItems (table : ObjectName) (attributes : List Attribute) :
    (keyItems table attributes).flatMap (fun item => quotes item.tokens) =
      identifiers (keyNames table attributes) := by
  unfold keyItems keyNames
  cases (attributes.filter Attribute.primary).map Attribute.name with
  | nil => rfl
  | cons column rest =>
    simp only [List.isEmpty_cons, Bool.false_eq_true, if_false, List.flatMap_singleton,
      TableItem.tokens, quotes_append, quotes_plains, quotes_enclosed, TableItem.quotes_names]
    rfl

theorem quotes_tableItems (table : ObjectName) (attributes : List Attribute) :
    (tableItems table attributes).flatMap (fun item => quotes item.tokens) =
      identifiers ((Attribute.stored attributes).map Attribute.name ++
        keyNames table (Attribute.stored attributes)) := by
  rw [tableItems, List.flatMap_append, quotes_keyItems, identifiers_append]
  simp [List.flatMap_map, TableItem.tokens, Attribute.clause, flatMap_identifiers]

theorem quotes_of_mem_tokens {c : SchemaChange} {ts : List Token} (h : ts ∈ c.tokens) :
    quotes ts = identifiers c.names := by
  cases c with
  | createTable table attributes =>
    cases List.mem_singleton.1 h
    simp [TableStatement.tokens, List.flatMap_map, quotes_tableItems, names]
  | addColumns table attributes =>
    simp only [tokens] at h
    split at h
    next => cases h
    next =>
      cases List.mem_singleton.1 h
      simp [TableStatement.tokens, List.flatMap_map, Attribute.clause, flatMap_identifiers, names]
  | modifyColumns table columns =>
    simp only [tokens] at h
    split at h
    next => cases h
    next =>
      cases List.mem_singleton.1 h
      simp [TableStatement.tokens, List.flatMap_map, Modification.clause, flatMap_identifiers,
        names]
  | createIndex name table columns =>
    cases List.mem_singleton.1 h
    simp only [quotes_append, quotes_plains, quotes_intercalate, TableItem.quotes_names,
      ObjectName.quotes_tokens, TableItem.quotes_nameTokens, List.nil_append, List.append_nil,
      List.append_assoc, ← identifiers_append]
    rfl
  | dropTable | createSequence | restartSequence | dropIndex | createView | dropView =>
    cases List.mem_singleton.1 h
    simp [names]

theorem stored_nameless (attributes : List Attribute) :
    Attribute.stored (attributes.map Attribute.nameless) =
      (Attribute.stored attributes).map Attribute.nameless := by
  simp [Attribute.stored, List.filter_map, Attribute.nameless, Function.comp_def]

theorem map_blank_keyItems (table : ObjectName) (attributes : List Attribute) :
    (keyItems table attributes).map (fun item => item.tokens.map Token.blank) =
      (keyItems table.nameless (attributes.map Attribute.nameless)).map
        fun item => item.tokens.map Token.blank := by
  have keys : (attributes.map Attribute.nameless).filter Attribute.primary =
      (attributes.filter Attribute.primary).map Attribute.nameless := by
    rw [List.filter_map]
    rfl
  unfold keyItems
  rw [keys]
  cases attributes.filter Attribute.primary with
  | nil => rfl
  | cons a rest => simp [TableItem.tokens, Function.comp_def]

theorem map_blank_tableItems (table : ObjectName) (attributes : List Attribute) :
    (tableItems table attributes).map (fun item => item.tokens.map Token.blank) =
      (tableItems table.nameless (attributes.map Attribute.nameless)).map
        fun item => item.tokens.map Token.blank := by
  unfold tableItems
  rw [List.map_append, List.map_append, stored_nameless, map_blank_keyItems]
  simp [TableItem.tokens, Function.comp_def]

theorem map_blank_tokens (c : SchemaChange) :
    c.tokens.map (List.map Token.blank) = c.nameless.tokens.map (List.map Token.blank) := by
  cases c with
  | createTable table attributes =>
    simp [tokens, nameless, TableStatement.tokens, Function.comp_def,
      map_blank_tableItems table attributes]
  | addColumns table attributes =>
    simp only [tokens, nameless, stored_nameless, List.isEmpty_map]
    split
    next => rfl
    next => simp [TableStatement.tokens, Function.comp_def]
  | modifyColumns table columns =>
    simp only [tokens, nameless, List.isEmpty_map]
    split
    next => rfl
    next => simp [TableStatement.tokens, Function.comp_def]
  | createIndex name table columns => simp [tokens, nameless, Function.comp_def]
  | dropTable | createSequence | restartSequence | dropIndex | createView | dropView =>
    simp [tokens, nameless]

theorem alike_statements {c d : SchemaChange} (same : d.nameless = c.nameless) :
    List.Forall₂ Alike c.withoutSelect.statements d.withoutSelect.statements := by
  have blank : c.tokens.map (List.map Token.blank) = d.tokens.map (List.map Token.blank) := by
    rw [map_blank_tokens c, map_blank_tokens d, same]
  have left := c.written_statements
  have right := d.written_statements
  generalize c.tokens = cs at blank left
  generalize d.tokens = ds at blank right
  generalize c.withoutSelect.statements = xs at left
  generalize d.withoutSelect.statements = ys at right
  induction left generalizing ds ys with
  | nil =>
    cases List.map_eq_nil_iff.1 blank.symm
    cases right
    exact .nil
  | @cons x ts xs cs first _ ih =>
    cases right with
    | nil => cases blank
    | @cons y us ys ds second rest =>
      rw [List.map_cons, List.map_cons, List.cons.injEq] at blank
      exact .cons ⟨ts, us, scan_eq_some_iff.2 first, scan_eq_some_iff.2 second, blank.1⟩
        (ih ds blank.2 ys rest)

-- The columns that are modified, also those that no table has.
def modified : SchemaChange → List Modification
  | .modifyColumns _ columns => columns
  | _ => []

theorem stored_stored (attributes : List Attribute) :
    Attribute.stored (Attribute.stored attributes) = Attribute.stored attributes :=
  List.filter_filter.trans (by simp [Attribute.stored])

theorem names_stored_iff (c : SchemaChange) :
    c.names = c.stored.names ↔ ∀ m ∈ c.modified, m.target.oneToMany = false := by
  cases c with
  | modifyColumns table columns =>
    simp only [stored, names, modified, List.append_cancel_left_eq]
    constructor
    next =>
      intro same
      have lengths := congrArg List.length same
      rw [List.length_map, List.length_map, eq_comm, List.length_filter_eq_length_iff] at lengths
      simpa using lengths
    next =>
      intro all
      rw [List.filter_eq_self.2 fun m member => by simp [all m member]]
  | createTable | addColumns => simp [stored, names, modified, stored_stored]
  | _ => simp [stored, modified]

/-- Each name is one quoted part of the statement, in the order of the names, and the text outside
of quotes is the same for all names. Only a modification writes columns that no table has. -/
theorem names_stay_quoted (c : SchemaChange) :
    c.statements = c.withoutSelect.statements.map (· ++ c.select) ∧
      (∀ sql ∈ c.withoutSelect.statements, ∃ ts, scan sql.toList = some ts ∧
        quotes ts = identifiers c.names) ∧
      (c.names = c.stored.names ↔ ∀ m ∈ c.modified, m.target.oneToMany = false) ∧
      ∀ d : SchemaChange, d.nameless = c.nameless →
        List.Forall₂ Alike c.withoutSelect.statements d.withoutSelect.statements := by
  refine ⟨c.statements_eq, ?_, c.names_stored_iff, fun d same => alike_statements same⟩
  intro sql member
  obtain ⟨lengths, each⟩ := List.forall₂_iff_get.1 c.written_statements
  obtain ⟨i, bound, rfl⟩ := List.getElem_of_mem member
  exact ⟨_, scan_eq_some_iff.2 (each i bound (lengths ▸ bound)),
    quotes_of_mem_tokens (List.get_mem _ _)⟩

def hostileTable : SchemaChange :=
  .createTable ⟨some "o\"", "t\" (x"⟩
    [{ Attribute.ofType "a,\"b" .integer with primary := true },
      { Attribute.ofType "many" .integer with oneToMany := true }]

theorem names_stay_quoted_hostile :
    hostileTable.names = ["o\"", "t\" (x", "a,\"b", "t\" (x_pk", "a,\"b"] ∧
      (∀ sql ∈ hostileTable.statements, ∃ ts, scan sql.toList = some ts ∧
        quotes ts = identifiers hostileTable.names) ∧
      hostileTable.names = hostileTable.stored.names ∧
      List.Forall₂ Alike hostileTable.statements hostileTable.nameless.statements :=
  have ⟨_, quoted, only, alike⟩ := hostileTable.names_stay_quoted
  ⟨rfl, quoted, only.2 (by simp [hostileTable, modified]), alike hostileTable.nameless rfl⟩

def virtualModified : SchemaChange :=
  .modifyColumns ⟨none, "t"⟩
    [⟨Attribute.ofType "id" .integer, false⟩,
      ⟨{ Attribute.ofType "orders" .integer with oneToMany := true }, false⟩]

theorem virtual_column_modified :
    ¬ ∀ (c : SchemaChange), ∀ sql ∈ c.withoutSelect.statements, ∃ ts, scan sql.toList = some ts ∧
      quotes ts = identifiers c.stored.names := by
  intro all
  have written : (scan (virtualModified.statements.headD "").toList).map quotes =
      some (identifiers ["t", "id", "orders"]) := by decide +kernel
  obtain ⟨ts, scanned, named⟩ := all virtualModified _ (List.mem_singleton_self _)
  have expected : (scan (virtualModified.statements.headD "").toList).map quotes =
      some (identifiers ["t", "id"]) := congrArg (Option.map quotes) scanned |>.trans
        (congrArg some named)
  rw [written] at expected
  simp [identifiers] at expected

end SchemaChange

end OracleSql
