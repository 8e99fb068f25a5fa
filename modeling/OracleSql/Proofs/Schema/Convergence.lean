import OracleSql.Proofs.Schema.Execution

set_option autoImplicit false

namespace OracleSql

open Database

inductive Settled (a : Attribute) : Option Column → Prop
  | primary {c : Column} (primary : c.primary = true) : Settled a (some c)
  | same {c : Column} (same : a.catalogType = c.currentType) : Settled a (some c)

namespace ColumnDiff

variable {existing : List Column} {a : Attribute}

theorem settled_iff : Settled a (columnOf? existing a) ↔
    isMissing existing a = false ∧ differs existing a = false := by
  unfold isMissing differs
  cases columnOf? existing a with
  | none => simpa using (nofun : ¬ Settled a none)
  | some c =>
    constructor
    next => rintro (primary | same) <;> simp [*]
    next =>
      rintro ⟨-, same⟩
      by_cases primary : c.primary = true
      next => exact .primary primary
      next => exact .same (by simpa [primary] using same)

theorem isEmpty_between_iff {requested : List Attribute} :
    (between requested existing).isEmpty = true ↔
      ∀ a ∈ Attribute.stored requested, Settled a (columnOf? existing a) := by
  simp only [isEmpty, between, Bool.and_eq_true, List.isEmpty_iff, List.filter_eq_nil_iff,
    settled_iff, Bool.not_eq_true, forall_and]

end ColumnDiff

section Settling

variable {report : String → ReportedType} {a : Attribute} {c : Column}

theorem settled_of_reported (faithful : IsFaithful report) (typed : c.reported = report a.baseType)
    (nullable : c.nullable = a.isNullable) : Settled a (some c) := by
  refine .same ?_
  rw [a.catalogType_eq, ← nullable]
  exact catalogName_eq_currentType faithful a.baseType_isBaseType typed

theorem settled_of_isAdded (faithful : IsFaithful report) {old new : Option Column}
    (h : Table.IsAdded report a.clause old new) : Settled a new := by
  cases h with
  | added ordinal => exact settled_of_reported faithful rfl rfl

theorem settled_of_isModified (faithful : IsFaithful report) {existing : List Column}
    (found : ColumnDiff.columnOf? existing a = some c) {new : Option Column}
    (h : Table.IsModified report (ColumnDiff.modification existing a).clause (some c) new) :
    Settled a new := by
  cases h with
  | modified =>
    refine settled_of_reported faithful rfl ?_
    -- The nullability is stated exactly if it is to change.
    by_cases keeps : c.nullable = a.isNullable
    next => simp [ColumnClause.revise, Modification.clause, ColumnDiff.modification, found, keeps]
    next => simp [ColumnClause.revise, Modification.clause, ColumnDiff.modification, found, keeps]

theorem canModify_modification {existing : List Column}
    (found : ColumnDiff.columnOf? existing a = some c) :
    Table.CanModify (ColumnDiff.modification existing a).clause (some c) := by
  refine ⟨c, rfl, ?_⟩
  by_cases keeps : c.nullable = a.isNullable
  next => simp [Modification.clause, ColumnDiff.modification, found, keeps]
  next => simp [Modification.clause, ColumnDiff.modification, found, keeps, Ne.symm keeps]

end Settling

namespace ColumnDiff

def statements (table : ObjectName) (requested : List Attribute) (existing : List Column) :
    List String :=
  let diff := between requested existing
  (SchemaChange.addColumns table diff.add).statements ++
    (SchemaChange.modifyColumns table (modifications diff.change existing)).statements

variable {report : String → ReportedType} {tables : Tables} {table : ObjectName} {t : Database.Table}
  {requested : List Attribute}

theorem stored_add (requested : List Attribute) (existing : List Column) :
    Attribute.stored (between requested existing).add = (between requested existing).add := by
  refine List.filter_eq_self.2 fun a member => ?_
  exact (List.mem_filter.1 (List.mem_filter.1 member).1).2

theorem nodup_filter (distinct : ((Attribute.stored requested).map Attribute.name).Nodup)
    (p : Attribute → Bool) : (((Attribute.stored requested).filter p).map Attribute.name).Nodup :=
  distinct.sublist (List.filter_sublist.map _)

theorem column?_of_mem_add {a : Attribute} (h : a ∈ (between requested t.columns).add) :
    t.column? a.name = none := by
  simpa [isMissing, columnOf?, Database.Table.column?] using (List.mem_filter.1 h).2

theorem exists_column?_of_mem_change {a : Attribute}
    (h : a ∈ (between requested t.columns).change) : ∃ c, t.column? a.name = some c := by
  have differs := (List.mem_filter.1 h).2
  cases found : t.column? a.name with
  | none =>
    have none : columnOf? t.columns a = none := found
    simp [ColumnDiff.differs, none] at differs
  | some c => exact ⟨c, rfl⟩

theorem names_modifications (change : List Attribute) (existing : List Column) :
    (modifications change existing).map (fun m => m.target.name) = change.map Attribute.name := by
  simp [modifications, modification]

section Phases

variable {middle t' : Database.Table}
  (first : Table.Changed (Table.IsAdded report)
    ((between requested t.columns).add.map Attribute.clause) t middle)
  (second : Table.Changed (Table.IsModified report)
    ((modifications (between requested t.columns).change t.columns).map Modification.clause)
    middle t')

include first

theorem column?_kept {name : String} {c : Column} (present : t.column? name = some c) :
    middle.column? name = some c := by
  -- A column that was there before the first statement is there after it.
  rw [first.others name, present]
  intro member
  rw [List.map_map] at member
  obtain ⟨a, added, rfl⟩ := List.mem_map.1 member
  have missing := column?_of_mem_add added
  rw [show t.column? a.name = some c from present] at missing
  cases missing

theorem canModify_of_added : ∀ m ∈ modifications (between requested t.columns).change t.columns,
    Table.CanModify m.clause (middle.column? m.target.name) := by
  intro m member
  obtain ⟨a, changed, rfl⟩ := List.mem_map.1 member
  obtain ⟨c, present⟩ := exists_column?_of_mem_change changed
  have now : middle.column? a.name = some c := column?_kept first present
  rw [show (modification t.columns a).target.name = a.name from rfl, now]
  exact canModify_modification present

include second

theorem settled_of_phases (faithful : IsFaithful report)
    (distinct : ((Attribute.stored requested).map Attribute.name).Nodup) :
    ∀ a ∈ Attribute.stored requested, Settled a (t'.column? a.name) := by
  intro a member
  -- names tell requested columns apart, so the second statement leaves alone what does not differ
  have unchanged (same : differs t.columns a = false) :
      t'.column? a.name = middle.column? a.name := by
    refine second.others a.name ?_
    rw [List.map_map, show ColumnClause.name ∘ Modification.clause = fun m => m.target.name from rfl,
      names_modifications]
    intro named
    obtain ⟨b, changed, equal⟩ := List.mem_map.1 named
    obtain ⟨stored, differs⟩ := List.mem_filter.1 changed
    rw [List.inj_on_of_nodup_map distinct stored member equal, same] at differs
    cases differs
  cases present : t.column? a.name with
  | none =>
    have none : columnOf? t.columns a = none := present
    have same : differs t.columns a = false := by simp [differs, none]
    have added : a ∈ (between requested t.columns).add :=
      List.mem_filter.2 ⟨member, by simp [isMissing, none]⟩
    -- The column is added, and the second statement does not name it.
    rw [unchanged same]
    exact settled_of_isAdded faithful (first.own a.clause (List.mem_map_of_mem added))
  | some c =>
    have now := column?_kept first present
    by_cases same : differs t.columns a = false
    next =>
      -- Neither statement names the column.
      have before : Settled a (columnOf? t.columns a) := by
        refine settled_iff.2 ⟨?_, same⟩
        have there : columnOf? t.columns a = some c := present
        simp [isMissing, there]
      rw [unchanged same, now, ← present]
      exact before
    next =>
      have changed : a ∈ (between requested t.columns).change :=
        List.mem_filter.2 ⟨member, by simpa using same⟩
      -- The second statement finds the column as it was.
      have modified := second.own (modification t.columns a).clause
        (List.mem_map_of_mem (List.mem_map_of_mem changed))
      rw [show (modification t.columns a).clause.name = a.name from rfl, now] at modified
      exact settled_of_isModified faithful present modified

end Phases

theorem exists_settled_statements (faithful : IsFaithful report) (there : tables table = some t)
    (distinct : ((Attribute.stored requested).map Attribute.name).Nodup) :
    ∃ t', executeAll report tables (statements table requested t.columns) =
        .ok (Function.update tables table (some t')) ∧
      ∀ a ∈ Attribute.stored requested, Settled a (t'.column? a.name) := by
  -- Both statements are accepted because each finds what the diff has seen.
  obtain ⟨middle, added, first⟩ := exists_executeAll_add report there
    (stored_add requested t.columns) (nodup_filter distinct _) fun a => column?_of_mem_add
  have thereNow : Function.update tables table (some middle) table = some middle :=
    Function.update_self table (some middle) tables
  obtain ⟨t', modified, second⟩ := exists_executeAll_modify report thereNow
    (names_modifications _ t.columns ▸ nodup_filter distinct _) (canModify_of_added first)
  refine ⟨t', ?_, settled_of_phases first second faithful distinct⟩
  rw [Function.update_idem] at modified
  rw [executeAll] at added modified ⊢
  rw [statements, List.foldlM_append, added]
  exact modified

theorem isTyped_tableItems (table : ObjectName) (attributes : List Attribute) :
    (TableStatement.create table (SchemaChange.tableItems table attributes)).IsTyped :=
  .create table fun _ => SchemaChange.isTyped_of_mem_tableItems

theorem clauses_tableItems (table : ObjectName) (attributes : List Attribute) :
    clauses (SchemaChange.tableItems table attributes) =
      (Attribute.stored attributes).map Attribute.clause := by
  have keys : clauses (SchemaChange.keyItems table (Attribute.stored attributes)) = [] := by
    unfold SchemaChange.keyItems clauses
    dsimp only
    split <;> rfl
  have columns : clauses ((Attribute.stored attributes).map fun a => .column a.clause) =
      (Attribute.stored attributes).map Attribute.clause := by
    simp [clauses, List.filterMap_map]
  unfold clauses at keys columns
  rw [clauses, SchemaChange.tableItems, List.filterMap_append, keys, columns, List.append_nil]

theorem settled_withKey {a : Attribute} {t : Database.Table} {name : String}
    (h : Settled a (t.column? name)) (key : List String) :
    Settled a ((t.withKey key).column? name) := by
  rw [Database.Table.withKey, Database.Table.column?_map]
  cases found : t.column? name with
  | none =>
    rw [found] at h
    cases h
  | some c =>
    rw [found] at h
    cases h with
    | primary primary => exact .primary (by simp [primary])
    | same same => exact .same same

theorem exists_settled_create (faithful : IsFaithful report) (absent : tables table = none)
    (distinct : ((Attribute.stored requested).map Attribute.name).Nodup) :
    ∃ t', executeAll report tables (SchemaChange.createTable table requested).statements =
        .ok (Function.update tables table (some t')) ∧
      ∀ a ∈ Attribute.stored requested, Settled a (t'.column? a.name) := by
  have names : ((Attribute.stored requested).map Attribute.clause).map ColumnClause.name =
      (Attribute.stored requested).map Attribute.name := by simp [Attribute.clause]
  -- In an empty table every column is missing.
  obtain ⟨t, accepted, changed⟩ := (Table.isLocal_add report).exists_foldlM (t := .empty)
    (names ▸ distinct) fun _ _ => rfl
  let key := keyColumns (SchemaChange.tableItems table requested)
  refine ⟨t.withKey key, ?_, ?_⟩
  next =>
    rw [SchemaChange.statements, SchemaChange.tableText_eq, executeAll, List.foldlM_cons,
      execute_render (isTyped_tableItems table requested)]
    simp only [run, absent, clauses_tableItems, accepted]
    rfl
  next =>
    intro a member
    have added := changed.own a.clause (List.mem_map_of_mem member)
    exact settled_withKey (settled_of_isAdded faithful added) key

/-- One round of statements is accepted, and the same request asks for nothing after it. -/
theorem converges (faithful : IsFaithful report) (tables : Tables) (table : ObjectName)
    (distinct : ((Attribute.stored requested).map Attribute.name).Nodup) :
    (∀ t, tables table = some t →
      ∃ t', executeAll report tables (statements table requested t.columns) =
          .ok (Function.update tables table (some t')) ∧
        (between requested t'.columns).isEmpty = true) ∧
      (tables table = none →
        ∃ t', executeAll report tables (SchemaChange.createTable table requested).statements =
            .ok (Function.update tables table (some t')) ∧
          (between requested t'.columns).isEmpty = true) := by
  constructor
  next =>
    intro t there
    obtain ⟨t', accepted, settled⟩ := exists_settled_statements faithful there distinct
    exact ⟨t', accepted, isEmpty_between_iff.2 settled⟩
  next =>
    intro absent
    obtain ⟨t', accepted, settled⟩ := exists_settled_create faithful absent distinct
    exact ⟨t', accepted, isEmpty_between_iff.2 settled⟩

def typeName (type : String) : String :=
  String.ofList (type.toList.takeWhile (· != '('))

def typeArguments (type : String) : List (Option Nat) :=
  (Text.split ',' ((type.toList.dropWhile (· != '(')).drop 1).dropLast).map Text.digits?

def readReport (type : String) : ReportedType :=
  match typeArguments type with
  | [some digits, some places] => ⟨typeName type, some 22, some places, some digits⟩
  | [some length] =>
      ⟨if typeName type = "VARCHAR" then "VARCHAR2" else typeName type, some length, none, none⟩
  | _ =>
      if type = "NCLOB" then ⟨type, some 4000, none, none⟩
      else if type = localTimestamp then ⟨type, some 11, some 6, none⟩
      else ⟨type, some 0, none, none⟩

theorem digits?_toString (n : Nat) : Text.digits? (toString n).toList = some n := by
  have digits : (toString n).toList.all Char.isDigit = true :=
    List.all_eq_true.2 fun _ member => isDigit_of_mem_toString member
  have text : (toString n).toList = Nat.toDigits 10 n := by
    rw [Nat.toString_eq_ofList_toDigits, String.toList_ofList]
  rw [text] at digits ⊢
  rw [Text.digits?, if_pos ⟨Nat.toDigits_ne_nil, digits⟩]
  exact congrArg some (Nat.ofDigitChars_toDigits (by omega) (by omega))

theorem split_of_absent {separator : Char} {cs : List Char} (absent : separator ∉ cs) :
    Text.split separator cs = [cs] := by
  induction cs with
  | nil => rfl
  | cons c cs ih =>
    rw [List.mem_cons, not_or] at absent
    simp [Text.split, Ne.symm absent.1, ih absent.2]

theorem split_append {separator : Char} {cs : List Char} (absent : separator ∉ cs)
    (ds : List Char) :
    Text.split separator (cs ++ separator :: ds) = cs :: Text.split separator ds := by
  induction cs with
  | nil => simp [Text.split]
  | cons c cs ih =>
    rw [List.mem_cons, not_or] at absent
    simp [Text.split, Ne.symm absent.1, ih absent.2]

theorem comma_notMem_toString (n : Nat) : ',' ∉ (toString n).toList :=
  fun member => ne_of_isDigit (isDigit_of_mem_toString member) (by decide) rfl

section Arguments

variable {name : String} (plain : '(' ∉ name.toList) (arguments : String)

include plain

theorem ne_opening_of_mem : ∀ c ∈ name.toList, (c != '(') = true := by
  intro c member
  rw [bne_iff_ne]
  rintro rfl
  exact plain member

theorem typeName_withArguments : typeName (withArguments name arguments) = name := by
  simp [typeName, withArguments, List.takeWhile_append_of_pos (ne_opening_of_mem plain)]

theorem typeArguments_withArguments : typeArguments (withArguments name arguments) =
    (Text.split ',' arguments.toList).map Text.digits? := by
  simp [typeArguments, withArguments, List.dropWhile_append_of_pos (ne_opening_of_mem plain)]

theorem typeArguments_length (length : Nat) :
    typeArguments (withArguments name (toString length)) = [some length] := by
  rw [typeArguments_withArguments plain, split_of_absent (comma_notMem_toString length),
    List.map_singleton, digits?_toString]

end Arguments

theorem isFaithful_readReport : IsFaithful readReport where
  number digits places := by
    refine ⟨some 22, ?_⟩
    have arguments : typeArguments (Attribute.numberType digits places) =
        [some digits, some places] := by
      have parts : (toString digits ++ "," ++ toString places).toList =
          (toString digits).toList ++ ',' :: (toString places).toList := by simp
      rw [numberType_eq, typeArguments_withArguments (by decide), parts,
        split_append (comma_notMem_toString digits), split_of_absent (comma_notMem_toString places),
        List.map_cons, List.map_singleton, digits?_toString, digits?_toString]
    have name : typeName (Attribute.numberType digits places) = "NUMBER" := by
      rw [numberType_eq]
      exact typeName_withArguments (by decide) _
    simp only [readReport, arguments, name]
  text length := by
    refine ⟨none, ?_⟩
    rw [textType_eq, readReport, typeArguments_length (by decide) length]
    simp only [typeName_withArguments (by decide : '(' ∉ "NVARCHAR2".toList),
      if_neg (by decide : "NVARCHAR2" ≠ "VARCHAR")]
  character length := by
    refine ⟨none, ?_⟩
    rw [characterType_eq, readReport, typeArguments_length (by decide) length]
    simp only [typeName_withArguments (by decide : '(' ∉ "VARCHAR".toList), if_true]
  largeText := ⟨some 4000, none, by decide +kernel⟩
  raw := ⟨none, by decide +kernel⟩
  timestamp := ⟨some 11, some 6, by decide +kernel⟩

def productColumns : Database.Table where
  columns :=
    [ ⟨"id", "NUMBER", 1, some 22, some 0, some 19, false, true⟩,
      ⟨"name", "NVARCHAR2", 2, some 50, none, none, true, false⟩,
      ⟨"price", "NUMBER", 3, some 22, some 4, some 19, true, false⟩ ]
  distinct := by decide

def productAttributes : List Attribute :=
  [ { Attribute.ofType "id" .counter with primary := true },
    { Attribute.ofType "name" .text with size := some 100, allowsNull := some false },
    .ofType "price" .currency, .ofType "created" .dateTime,
    { Attribute.ofType "tags" (.other "Tag") with oneToMany := true } ]

def productTables : Tables :=
  Function.update (fun _ => none) ⟨none, "products"⟩ (some productColumns)

theorem converges_products :
    ∃ t', executeAll readReport productTables
        [ "ALTER TABLE \"products\" ADD (\"created\" TIMESTAMP(6) WITH LOCAL TIME ZONE NULL)",
          "ALTER TABLE \"products\" MODIFY (\"name\" NVARCHAR2(100) NOT NULL)" ] =
        .ok (Function.update productTables ⟨none, "products"⟩ (some t')) ∧
      (between productAttributes t'.columns).isEmpty = true := by
  have texts : statements ⟨none, "products"⟩ productAttributes productColumns.columns =
      [ "ALTER TABLE \"products\" ADD (\"created\" TIMESTAMP(6) WITH LOCAL TIME ZONE NULL)",
        "ALTER TABLE \"products\" MODIFY (\"name\" NVARCHAR2(100) NOT NULL)" ] := by
    decide +kernel
  rw [← texts]
  exact (converges isFaithful_readReport productTables ⟨none, "products"⟩ (by decide)).1
    productColumns (Function.update_self _ _ _)

end ColumnDiff

end OracleSql
