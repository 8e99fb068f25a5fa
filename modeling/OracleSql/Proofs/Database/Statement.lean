import OracleSql.Schema.Change
import OracleSql.Proofs.Sql.Part

set_option autoImplicit false

namespace OracleSql

open Sql

namespace ObjectName

def tokens : ObjectName → List Token
  | ⟨some owner, name⟩ => [.quoted .name owner.toList, .plain '.', .quoted .name name.toList]
  | ⟨none, name⟩ => [.quoted .name name.toList]

def read? : List Token → Option (ObjectName × List Token)
  | .quoted .name owner :: .plain '.' :: .quoted .name name :: ts =>
      some (⟨some (String.ofList owner), String.ofList name⟩, ts)
  | .quoted .name name :: ts => some (⟨none, String.ofList name⟩, ts)
  | _ => none

theorem written_render (n : ObjectName) : Written n.render.toList n.tokens := by
  obtain ⟨owner | owner, name⟩ := n
  next => exact written_quote name
  next => exact (written_quote owner).between (written_quote name) "." (by decide) (by decide)

theorem read?_tokens (n : ObjectName) (ts : List Token) (next : ts.head? ≠ some (.plain '.')) :
    read? (n.tokens ++ ts) = some (n, ts) := by
  obtain ⟨owner | owner, name⟩ := n
  next =>
    -- The second name would need a dot before it.
    cases ts with
    | nil => simp [tokens, read?]
    | cons t ts =>
      have differs : t ≠ .plain '.' := by simpa using next
      simp only [tokens, List.cons_append, List.nil_append]
      unfold read?
      split
      next same =>
        simp only [List.cons.injEq] at same
        exact absurd same.2.1 differs
      next same =>
        cases same
        simp
      next other => exact absurd rfl (other _ _)
  next => simp [tokens, read?]

end ObjectName

/-- A column as a statement defines it. Without a word on nullability that stays as it is. -/
structure ColumnClause where
  name : String
  type : String
  nullable : Option Bool
  deriving DecidableEq

namespace ColumnClause

def nullability : Option Bool → String
  | none => ""
  | some true => " NULL"
  | some false => " NOT NULL"

def render (c : ColumnClause) : String :=
  Name.quote c.name ++ (" " ++ (c.type ++ nullability c.nullable))

def tokens (c : ColumnClause) : List Token :=
  .quoted .name c.name.toList :: .plain ' ' :: plains (c.type ++ nullability c.nullable)

def dropEnd (ending cs : List Char) : List Char :=
  cs.take (cs.length - ending.length)

def states (nullable : Bool) (cs : List Char) : Bool :=
  (nullability (some nullable)).toList.isSuffixOf cs

def split (cs : List Char) : List Char × Option Bool :=
  if states false cs then (dropEnd (nullability (some false)).toList cs, some false)
  else if states true cs then (dropEnd (nullability (some true)).toList cs, some true)
  else (cs, none)

def plain? : Token → Option Char
  | .plain c => some c
  | .quoted _ _ => none

def read? : List Token → Option ColumnClause
  | .quoted .name name :: .plain ' ' :: ts =>
      (ts.mapM plain?).map fun cs =>
        ⟨String.ofList name, String.ofList (split cs).1, (split cs).2⟩
  | _ => none

/-- A text that a type can be read back from, whatever the clause says of nullability. -/
structure IsType (type : String) : Prop where
  plain : ∀ c ∈ type.toList, IsPlain c
  whole : level 0 (plains type) = some 0
  ends : ∃ c, type.toList.getLast? = some c ∧ c ≠ 'T' ∧ c ≠ 'L'

variable {c : ColumnClause}

theorem getLast?_eq_of_suffix {ending cs : List Char} (suffix : ending <:+ cs)
    (some : ending ≠ []) : cs.getLast? = ending.getLast? := by
  obtain ⟨front, rfl⟩ := suffix
  exact List.getLast?_append_of_ne_nil front some

theorem states_append (nullable : Bool) (cs : List Char) :
    states nullable (cs ++ (nullability (some nullable)).toList) = true :=
  List.isSuffixOf_iff_suffix.2 (List.suffix_append _ _)

theorem dropEnd_append (cs ending : List Char) : dropEnd ending (cs ++ ending) = cs := by
  simp [dropEnd]

theorem not_states_type {type : String} (h : IsType type) (nullable : Bool) :
    states nullable type.toList = false := by
  obtain ⟨last, ends, -, notL⟩ := h.ends
  rw [states, Bool.eq_false_iff]
  intro suffix
  have word : (nullability (some nullable)).toList.getLast? = some 'L' := by
    cases nullable <;> decide
  have some : (nullability (some nullable)).toList ≠ [] := by
    cases nullable <;> decide
  rw [getLast?_eq_of_suffix (List.isSuffixOf_iff_suffix.1 suffix) some, word] at ends
  exact notL (Option.some.inj ends).symm

theorem not_states_false_null {type : String} (h : IsType type) :
    states false (type.toList ++ (nullability (some true)).toList) = false := by
  -- The words for null and not null differ in what comes before their common end.
  obtain ⟨last, ends, notT, -⟩ := h.ends
  rw [states, Bool.eq_false_iff]
  intro suffix
  have shape : (nullability (some false)).toList = " NOT".toList ++ (nullability (some true)).toList := by
    decide
  rw [List.isSuffixOf_iff_suffix, shape, List.suffix_append_self_iff] at suffix
  rw [getLast?_eq_of_suffix suffix (by decide)] at ends
  exact notT (Option.some.inj ends).symm

theorem split_type {type : String} (h : IsType type) (nullable : Option Bool) :
    split (type.toList ++ (nullability nullable).toList) = (type.toList, nullable) := by
  rcases nullable with _ | _ | _
  next =>
    have bare : type.toList ++ (nullability none).toList = type.toList := by simp [nullability]
    simp only [bare, split, not_states_type h, Bool.false_eq_true, if_false]
  next => simp only [split, states_append, if_true, dropEnd_append]
  next =>
    simp only [split, not_states_false_null h, states_append, Bool.false_eq_true, if_false,
      if_true, dropEnd_append]

theorem mapM_plain? (s : String) : (plains s).mapM plain? = some s.toList :=
  mapM_map_eq_some fun _ _ => rfl

theorem read?_tokens (h : IsType c.type) : read? c.tokens = some c := by
  simp [read?, tokens, mapM_plain?, split_type h]

theorem isPlain_type_nullability {type : String} (h : IsType type) (nullable : Option Bool) :
    ∀ c ∈ (" " ++ (type ++ nullability nullable)).toList, IsPlain c := by
  have words : ∀ c ∈ (nullability nullable).toList, IsPlain c := by
    rcases nullable with _ | _ | _ <;> decide
  intro c member
  simp only [String.toList_append, List.mem_append] at member
  rcases member with blank | type | word
  next => exact (by decide : ∀ c ∈ " ".toList, IsPlain c) c blank
  next => exact h.plain c type
  next => exact words c word

theorem written_render (h : IsType c.type) : Written c.render.toList c.tokens := by
  have written := (written_quote c.name).before _ (isPlain_type_nullability h c.nullable)
  have shape : [Token.quoted .name c.name.toList] ++
      plains (" " ++ (c.type ++ nullability c.nullable)) = c.tokens := by
    simp [tokens, plains]
  rwa [shape] at written

theorem isPart_tokens (h : IsType c.type) : IsPart c.tokens where
  whole := by
    -- The words on nullability hold no parentheses and no comma.
    have words : level 0 (plains (nullability c.nullable)) = some 0 := by
      refine level_plains_of_flat ?_ 0
      rcases c.nullable with _ | _ | _ <;> decide
    simp [tokens, level, depthAfter, level_append, h.whole, words]
  some := by simp [tokens]
  starts := by simp [tokens]

end ColumnClause

inductive TableItem where
  | column (clause : ColumnClause)
  | key (name : String) (columns : List String)
  deriving DecidableEq

namespace TableItem

def render : TableItem → String
  | .column clause => clause.render
  | .key name columns =>
      "CONSTRAINT " ++ Name.quote name ++ " PRIMARY KEY (" ++
        ", ".intercalate (columns.map Name.quote) ++ ")"

def nameTokens (name : String) : List Token :=
  [.quoted .name name.toList]

def tokens : TableItem → List Token
  | .column clause => clause.tokens
  | .key name columns =>
      plains "CONSTRAINT " ++ (nameTokens name ++
        (plains " PRIMARY KEY " ++ enclosed (columns.map nameTokens)))

def readName? : List Token → Option String
  | [.quoted .name name] => some (String.ofList name)
  | _ => none

def readKey? : List Token → Option TableItem
  | .quoted .name name :: ts => do
      let ts ← after? " PRIMARY KEY " ts
      let columns ← (← parts? ts).mapM readName?
      some (.key (String.ofList name) columns)
  | _ => none

def read? (ts : List Token) : Option TableItem :=
  match after? "CONSTRAINT " ts with
  | some ts => readKey? ts
  | none => (ColumnClause.read? ts).map .column

inductive IsTyped : TableItem → Prop
  | column {clause : ColumnClause} (type : ColumnClause.IsType clause.type) : IsTyped (.column clause)
  | key (name : String) (columns : List String) : IsTyped (.key name columns)

theorem isPart_nameTokens (name : String) : IsPart (nameTokens name) :=
  ⟨by simp [nameTokens, level, depthAfter], by simp [nameTokens], by simp [nameTokens]⟩

theorem readName?_nameTokens (name : String) : readName? (nameTokens name) = some name := by
  simp [nameTokens, readName?]

theorem read?_tokens {item : TableItem} (h : item.IsTyped) : read? item.tokens = some item := by
  cases h with
  | @column clause type =>
    -- A column starts with its quoted name, so it is not taken for a key.
    have other : after? "CONSTRAINT " clause.tokens = none := by
      simp [after?, afterChars?, ColumnClause.tokens]
    simp only [read?, tokens, other, ColumnClause.read?_tokens type, Option.map_some]
  | key name columns =>
    have parts : parts? (enclosed (columns.map nameTokens)) = some (columns.map nameTokens) := by
      refine parts?_enclosed fun part member => ?_
      obtain ⟨column, -, rfl⟩ := List.mem_map.1 member
      exact isPart_nameTokens column
    have names : (columns.map nameTokens).mapM readName? = some columns :=
      mapM_map_eq_some fun column _ => readName?_nameTokens column
    have key : readKey? (nameTokens name ++
        (plains " PRIMARY KEY " ++ enclosed (columns.map nameTokens))) =
          some (.key name columns) := by
      simp only [nameTokens, List.cons_append, List.nil_append, readKey?, after?_plains,
        Option.bind_eq_bind, Option.bind_some, parts, names, String.ofList_toList]
    simp only [read?, tokens, after?_plains, key]

theorem written_render {item : TableItem} (h : item.IsTyped) :
    Written item.render.toList item.tokens := by
  cases h with
  | column type => exact ColumnClause.written_render type
  | key name columns =>
    have names : List.Forall₂ (fun x part => Written x.toList part) (columns.map Name.quote)
        (columns.map nameTokens) := by
      rw [List.forall₂_map_left_iff, List.forall₂_map_right_iff, List.forall₂_same]
      exact fun column _ => written_quote column
    have written := ((written_quote name).between (written_enclosed names) " PRIMARY KEY "
      (by decide) (by decide)).after "CONSTRAINT " (by decide)
    have shape : "CONSTRAINT " ++ (Name.quote name ++ " PRIMARY KEY " ++
        ("(" ++ ", ".intercalate (columns.map Name.quote) ++ ")")) =
          render (.key name columns) := by
      simp [render, ← String.toList_inj]
    rw [shape, List.append_assoc] at written
    exact written

theorem isPart_tokens {item : TableItem} (h : item.IsTyped) : IsPart item.tokens := by
  cases h with
  | column type => exact ColumnClause.isPart_tokens type
  | key name columns =>
    have names : level 0 (enclosed (columns.map nameTokens)) = some 0 := by
      refine level_enclosed fun part member => ?_
      obtain ⟨column, -, rfl⟩ := List.mem_map.1 member
      simp [nameTokens, level, depthAfter]
    have constraint : level 0 (plains "CONSTRAINT ") = some 0 := level_plains_of_flat (by decide) 0
    have primary : level 0 (plains " PRIMARY KEY ") = some 0 := level_plains_of_flat (by decide) 0
    have first : level 0 (nameTokens name) = some 0 := (isPart_nameTokens name).whole
    refine ⟨?_, by simp [tokens, plains], by simp [tokens, plains]⟩
    simp [tokens, level_append, constraint, first, primary, names]

end TableItem

inductive TableStatement where
  | create (table : ObjectName) (items : List TableItem)
  | add (table : ObjectName) (columns : List ColumnClause)
  | modify (table : ObjectName) (columns : List ColumnClause)
  deriving DecidableEq

namespace TableStatement

def text (verb : String) (table : ObjectName) (action : String) (items : List String) : String :=
  verb ++ table.render ++ action ++ "(" ++ ", ".intercalate items ++ ")"

def tokens (verb : String) (table : ObjectName) (action : String) (items : List (List Token)) :
    List Token :=
  plains verb ++ (table.tokens ++ (plains action ++ enclosed items))

def render : TableStatement → String
  | .create table items => text "CREATE TABLE " table " " (items.map TableItem.render)
  | .add table columns => text "ALTER TABLE " table " ADD " (columns.map ColumnClause.render)
  | .modify table columns => text "ALTER TABLE " table " MODIFY " (columns.map ColumnClause.render)

def readItems? {α : Type} (item? : List Token → Option α) (action : String) (ts : List Token) :
    Option (List α) := do
  let items ← parts? (← after? action ts)
  items.mapM item?

def readAltered? (table : ObjectName) (ts : List Token) : Option TableStatement :=
  match readItems? ColumnClause.read? " ADD " ts with
  | some columns => some (.add table columns)
  | none => (readItems? ColumnClause.read? " MODIFY " ts).map (.modify table)

def readTokens? (ts : List Token) : Option TableStatement :=
  match after? "CREATE TABLE " ts with
  | some ts => do
      let (table, ts) ← ObjectName.read? ts
      let items ← readItems? TableItem.read? " " ts
      some (.create table items)
  | none => do
      let (table, ts) ← ObjectName.read? (← after? "ALTER TABLE " ts)
      readAltered? table ts

def read? (s : String) : Option TableStatement := do
  readTokens? (← scan s.toList)

inductive IsTyped : TableStatement → Prop
  | create (table : ObjectName) {items : List TableItem} (typed : ∀ item ∈ items, item.IsTyped) :
      IsTyped (.create table items)
  | add (table : ObjectName) {columns : List ColumnClause}
      (typed : ∀ c ∈ columns, ColumnClause.IsType c.type) : IsTyped (.add table columns)
  | modify (table : ObjectName) {columns : List ColumnClause}
      (typed : ∀ c ∈ columns, ColumnClause.IsType c.type) : IsTyped (.modify table columns)

section Items

variable {α : Type} {xs : List α} {render : α → String} {itemTokens : α → List Token}
  {item? : List Token → Option α}

theorem scan_text (verb action : String) (verbPlain : ∀ c ∈ verb.toList, IsPlain c)
    (actionPlain : ∀ c ∈ action.toList, IsPlain c) (some : action ≠ "") (table : ObjectName)
    (written : ∀ x ∈ xs, Written (render x).toList (itemTokens x)) :
    scan (text verb table action (xs.map render)).toList =
      Option.some (tokens verb table action (xs.map itemTokens)) := by
  have items : List.Forall₂ (fun x part => Written x.toList part) (xs.map render)
      (xs.map itemTokens) := by
    rw [List.forall₂_map_left_iff, List.forall₂_map_right_iff, List.forall₂_same]
    exact written
  have all := (table.written_render.between (written_enclosed items) action actionPlain some).after
    verb verbPlain
  have shape : verb ++ (table.render ++ action ++
      ("(" ++ ", ".intercalate (xs.map render) ++ ")")) =
        text verb table action (xs.map render) := by
    simp [text, String.append_assoc]
  rw [shape, List.append_assoc] at all
  exact scan_eq_some_iff.2 all

theorem readItems?_tokens (action : String) (part : ∀ x ∈ xs, IsPart (itemTokens x))
    (back : ∀ x ∈ xs, item? (itemTokens x) = some x) :
    readItems? item? action (plains action ++ enclosed (xs.map itemTokens)) = some xs := by
  have parts : parts? (enclosed (xs.map itemTokens)) = some (xs.map itemTokens) := by
    refine parts?_enclosed fun p member => ?_
    obtain ⟨x, inside, rfl⟩ := List.mem_map.1 member
    exact part x inside
  simp only [readItems?, after?_plains, Option.bind_eq_bind, Option.bind_some, parts,
    mapM_map_eq_some back]

end Items

theorem read?_altered {table : ObjectName} {action : String} {columns : List ColumnClause}
    (plain : ∀ c ∈ action.toList, IsPlain c) (blank : action.toList.head? = some ' ')
    (typed : ∀ c ∈ columns, ColumnClause.IsType c.type) :
    read? (text "ALTER TABLE " table action (columns.map ColumnClause.render)) =
      readAltered? table (plains action ++ enclosed (columns.map ColumnClause.tokens)) := by
  have some : action ≠ "" := by
    rintro rfl
    simp at blank
  have scanned := scan_text "ALTER TABLE " action (by decide) plain some table
    fun c member => ColumnClause.written_render (typed c member)
  have other (ts : List Token) : after? "CREATE TABLE " (plains "ALTER TABLE " ++ ts) = none := by
    simp [after?, afterChars?, plains]
  -- The action starts with a blank, so the name of the table ends before it.
  have next (ts : List Token) : (plains action ++ ts).head? ≠ Option.some (.plain '.') := by
    simp [plains, List.head?_append, blank]
  simp only [read?, scanned, readTokens?, tokens, other, after?_plains, Option.bind_eq_bind,
    Option.bind_some, ObjectName.read?_tokens _ _ (next _)]

theorem read?_render {st : TableStatement} (h : st.IsTyped) : read? st.render = some st := by
  cases h with
  | @create table items typed =>
    have scanned := scan_text "CREATE TABLE " " " (by decide) (by decide) (by decide) table
      fun item member => TableItem.written_render (typed item member)
    have columns := readItems?_tokens " "
      (fun item member => TableItem.isPart_tokens (typed item member))
      (fun item member => TableItem.read?_tokens (typed item member))
    have next (ts : List Token) : (plains " " ++ ts).head? ≠ some (.plain '.') := by simp [plains]
    simp only [render, read?, scanned, readTokens?, tokens, after?_plains, Option.bind_eq_bind,
      Option.bind_some, ObjectName.read?_tokens _ _ (next _), columns]
  | add table typed =>
    have columns := readItems?_tokens " ADD "
      (fun c member => ColumnClause.isPart_tokens (typed c member))
      (fun c member => ColumnClause.read?_tokens (typed c member))
    rw [render, read?_altered (by decide) (by decide) typed]
    simp only [readAltered?, columns]
  | modify table typed =>
    have columns := readItems?_tokens " MODIFY "
      (fun c member => ColumnClause.isPart_tokens (typed c member))
      (fun c member => ColumnClause.read?_tokens (typed c member))
    have other (ts : List Token) : after? " ADD " (plains " MODIFY " ++ ts) = none := by
      simp [after?, afterChars?, plains]
    rw [render, read?_altered (by decide) (by decide) typed, readAltered?, columns]
    simp only [readItems?, other, Option.bind_eq_bind, Option.bind_none, Option.map_some]

end TableStatement

end OracleSql
