import OracleSql.Proofs.Migration.Ledger
import OracleSql.Proofs.Sql.Part

set_option autoImplicit false

namespace OracleSql

open Sql

structure OwnedObject where
  owner : String
  kind : ObjectKind
  name : String
  deriving DecidableEq

structure OwnedColumn where
  owner : String
  table : String
  column : Column

structure Holdings where
  objects : List OwnedObject
  columns : List OwnedColumn

/-- What a query asks of a column of the catalog: to be a certain text, or to equal or to resemble
the next parameter. -/
inductive Condition where
  | literal (column text : String)
  | equals (column : String)
  | resembles (column : String)
  deriving DecidableEq

namespace Condition

def plain? : Token → Option Char
  | .plain c => some c
  | .quoted _ _ => none

def word? (ts : List Token) : Option String :=
  (ts.mapM plain?).map String.ofList

def read? : List (List Token) → Option Condition
  | [call] => do
      let ts ← after? "REGEXP_LIKE(" call
      let column := ts.takeWhile (· != .plain ',')
      if ts.drop column.length = plains ",?," ++ [.quoted .literal ['i'], .plain ')'] then
        (word? column).map .resembles
      else none
  | [column, operator, operand] =>
      if operator = plains "=" ∧ operand = plains "?" then (word? column).map .equals
      else
        match operand with
        | [.plain '(', .quoted .literal text, .plain ')'] =>
            if operator = plains "IN" then
              (word? column).map fun column => .literal column (String.ofList text)
            else none
        | _ => none
  | _ => none

def readAll? (words : List (List Token)) : Option (List Condition) :=
  (words.splitOn (plains "AND")).mapM read?

-- Whether the conditions hold of the cells, where each takes the parameter that is its.
def meets (likes : String → String → Bool) (cells : Keyed String) :
    List Condition → List Value → Bool
  | [], _ => true
  | .literal column text :: rest, params =>
      cells.get? column == some text && meets likes cells rest params
  | .equals column :: rest, .text s :: params =>
      cells.get? column == some s && meets likes cells rest params
  | .resembles column :: rest, .text pattern :: params =>
      (cells.get? column).any (likes pattern) && meets likes cells rest params
  | _, _ => false

end Condition

inductive CatalogView where
  | objects
  | sequences
  deriving DecidableEq

inductive CatalogQuery where
  | count (view : CatalogView) (conditions : List Condition)
  | columns (conditions : List Condition)
  deriving DecidableEq

namespace CatalogQuery

def countStart : CatalogView → String
  | .objects => r#"SELECT COUNT(*) AS "count" FROM ALL_OBJECTS WHERE "#
  | .sequences => r#"SELECT COUNT(*) AS "count" FROM ALL_SEQUENCES WHERE "#

def columnsStart : String :=
  r#"SELECT c0.COLUMN_NAME AS "name", c0.DATA_TYPE AS "type", c0.COLUMN_ID AS "ordinal","# ++
  " CASE WHEN c0.CHAR_LENGTH > 0 THEN c0.CHAR_LENGTH ELSE c0.DATA_LENGTH END" ++
  r#" AS "size", c0.DATA_SCALE AS "scale", c0.DATA_PRECISION AS "precision","# ++
  r#" CASE WHEN c0.NULLABLE = 'Y' THEN 1 ELSE 0 END AS "nullable","# ++
  r#" CASE WHEN t0.CONSTRAINT_TYPE = 'P' THEN 1 ELSE 0 END AS "primary""# ++
  " FROM ALL_TAB_COLUMNS c0 LEFT JOIN (SELECT cols.TABLE_NAME, cols.COLUMN_NAME, cols.OWNER," ++
  " cons.CONSTRAINT_TYPE FROM ALL_CONSTRAINTS cons INNER JOIN ALL_CONS_COLUMNS cols" ++
  " ON cons.CONSTRAINT_TYPE = 'P' AND cons.CONSTRAINT_NAME = cols.CONSTRAINT_NAME" ++
  " AND cons.OWNER = cols.OWNER WHERE cols.TABLE_NAME = ?) t0" ++
  " ON c0.COLUMN_NAME = t0.COLUMN_NAME AND c0.OWNER = t0.OWNER WHERE "

def words? (cs : List Char) : Option (List (List Token)) :=
  (scan cs).map fun ts => ts.splitOn (.plain ' ')

def orderWords : List (List Token) :=
  [plains "ORDER", plains "BY", plains "c0.COLUMN_ID"]

-- The conditions of a query that asks for the columns in their order.
def readOrdered? (words : List (List Token)) : Option (List Condition) :=
  if words.drop (words.length - 3) = orderWords then
    Condition.readAll? (words.take (words.length - 3))
  else none

def readAfter? (start : String) (read? : List (List Token) → Option (List Condition))
    (sql : String) : Option (List Condition) :=
  if Text.startsWith start sql then (words? (sql.toList.drop start.length)).bind read? else none

def read? (sql : String) : Option CatalogQuery :=
  ((readAfter? (countStart .objects) Condition.readAll? sql).map (.count .objects) <|>
    (readAfter? (countStart .sequences) Condition.readAll? sql).map (.count .sequences)) <|>
  (readAfter? columnsStart readOrdered? sql).map .columns

variable {read : List (List Token) → Option (List Condition)}

theorem readAfter?_append (start rest : String) :
    readAfter? start read (start ++ rest) = (words? rest.toList).bind read := by
  have starts : Text.startsWith start (start ++ rest) = true := by
    simp [Text.startsWith, String.toList_append]
  rw [readAfter?, if_pos starts, String.toList_append, ← String.length_toList, List.drop_left]

theorem readAfter?_other {start sql : String} (other : Text.startsWith start sql = false) :
    readAfter? start read sql = none := by
  rw [readAfter?, other]
  rfl

end CatalogQuery

def ObjectKind.text : ObjectKind → String
  | .table => "TABLE"
  | .view => "VIEW"
  | .sequence => "SEQUENCE"

namespace CatalogView

def ofKind : ObjectKind → CatalogView
  | .table | .view => .objects
  | .sequence => .sequences

def shows : CatalogView → OwnedObject → Bool
  | .objects, _ => true
  | .sequences, o => o.kind == .sequence

def cells : CatalogView → OwnedObject → Keyed String
  | .objects, o => [("OWNER", o.owner), ("OBJECT_NAME", o.name), ("OBJECT_TYPE", o.kind.text)]
  | .sequences, o => [("SEQUENCE_OWNER", o.owner), ("SEQUENCE_NAME", o.name)]

end CatalogView

namespace OwnedColumn

def cells (c : OwnedColumn) : Keyed String :=
  [("c0.OWNER", c.owner), ("c0.TABLE_NAME", c.table)]

def reported (keyTable : String) (c : OwnedColumn) : Column :=
  { c.column with primary := c.column.primary && c.table == keyTable }

end OwnedColumn

namespace Catalog

def ownerCondition (n : ObjectName) (column : String) : List Condition :=
  match n.owner with
  | some _ => [.resembles column]
  | none => []

def conditions (n : ObjectName) : ObjectKind → List Condition
  | .table => .literal "OBJECT_TYPE" "TABLE" :: .equals "OBJECT_NAME" :: ownerCondition n "OWNER"
  | .view => .literal "OBJECT_TYPE" "VIEW" :: .equals "OBJECT_NAME" :: ownerCondition n "OWNER"
  | .sequence => .equals "SEQUENCE_NAME" :: ownerCondition n "SEQUENCE_OWNER"

def conditionsText (n : ObjectName) : ObjectKind → String
  | .table => "OBJECT_TYPE IN ('TABLE')" ++ " AND OBJECT_NAME = ?" ++ ownerFilter n "OWNER"
  | .view => "OBJECT_TYPE IN ('VIEW')" ++ " AND OBJECT_NAME = ?" ++ ownerFilter n "OWNER"
  | .sequence => "SEQUENCE_NAME = ?" ++ ownerFilter n "SEQUENCE_OWNER"

theorem literal_append {a b text : List Char} (h : a ++ b = text) :
    String.ofList a ++ String.ofList b = String.ofList text := by
  rw [← String.ofList_append, h]

theorem countText_eq (n : ObjectName) (kind : ObjectKind) :
    countText n kind = CatalogQuery.countStart (.ofKind kind) ++ conditionsText n kind := by
  have table : CatalogQuery.countStart .objects ++ "OBJECT_TYPE IN ('TABLE')" =
      r#"SELECT COUNT(*) AS "count" FROM ALL_OBJECTS WHERE OBJECT_TYPE IN ('TABLE')"# :=
    literal_append rfl
  have view : CatalogQuery.countStart .objects ++ "OBJECT_TYPE IN ('VIEW')" =
      r#"SELECT COUNT(*) AS "count" FROM ALL_OBJECTS WHERE OBJECT_TYPE IN ('VIEW')"# :=
    literal_append rfl
  have sequence : CatalogQuery.countStart .sequences ++ "SEQUENCE_NAME = ?" =
      r#"SELECT COUNT(*) AS "count" FROM ALL_SEQUENCES WHERE SEQUENCE_NAME = ?"# :=
    literal_append rfl
  unfold countText conditionsText
  cases kind with
  | table => simp only [CatalogView.ofKind, ← table, String.append_assoc]
  | view => simp only [CatalogView.ofKind, ← view, String.append_assoc]
  | sequence => simp only [CatalogView.ofKind, ← sequence, String.append_assoc]

theorem columnsText_eq (n : ObjectName) :
    columnsText n = CatalogQuery.columnsStart ++
      ("c0.TABLE_NAME = ?" ++ ownerFilter n "c0.OWNER" ++ " ORDER BY c0.COLUMN_ID") := by
  have last : " ON c0.COLUMN_NAME = t0.COLUMN_NAME AND c0.OWNER = t0.OWNER WHERE " ++
      "c0.TABLE_NAME = ?" =
        " ON c0.COLUMN_NAME = t0.COLUMN_NAME AND c0.OWNER = t0.OWNER WHERE c0.TABLE_NAME = ?" :=
    literal_append rfl
  unfold columnsText CatalogQuery.columnsStart
  simp only [← last, String.append_assoc]

theorem readAll?_conditionsText (n : ObjectName) (kind : ObjectKind) :
    (CatalogQuery.words? (conditionsText n kind).toList).bind Condition.readAll? =
      some (conditions n kind) := by
  unfold conditionsText ownerFilter conditions ownerCondition
  obtain ⟨owner | owner, name⟩ := n
  all_goals
    cases kind <;> simp only [String.toList_append] <;> decide +kernel

theorem readOrdered?_ownerFilter (n : ObjectName) :
    (CatalogQuery.words? ("c0.TABLE_NAME = ?" ++ ownerFilter n "c0.OWNER" ++
      " ORDER BY c0.COLUMN_ID").toList).bind CatalogQuery.readOrdered? =
        some (.equals "c0.TABLE_NAME" :: ownerCondition n "c0.OWNER") := by
  unfold ownerFilter ownerCondition
  obtain ⟨owner | owner, name⟩ := n
  all_goals simp only [String.toList_append]; decide +kernel

theorem startsWith_countStart (view : CatalogView) (rest : String) :
    Text.startsWith (CatalogQuery.countStart view) (CatalogQuery.countStart view ++ rest) = true := by
  simp [Text.startsWith, String.toList_append]

theorem read?_countText (n : ObjectName) (kind : ObjectKind) :
    CatalogQuery.read? (countText n kind) = some (.count (.ofKind kind) (conditions n kind)) := by
  have read : CatalogQuery.readAfter? (CatalogQuery.countStart (.ofKind kind)) Condition.readAll?
      (countText n kind) = some (conditions n kind) := by
    rw [countText_eq, CatalogQuery.readAfter?_append, readAll?_conditionsText]
  unfold CatalogQuery.read?
  cases view : CatalogView.ofKind kind with
  | objects =>
    rw [view] at read
    rw [read]
    rfl
  | sequences =>
    have other : Text.startsWith (CatalogQuery.countStart .objects) (countText n kind) = false := by
      rw [countText_eq, view]
      exact startsWith_other (startsWith_countStart .sequences _) rfl rfl
    rw [view] at read
    rw [CatalogQuery.readAfter?_other other, read]
    rfl

theorem read?_columnsText (n : ObjectName) : CatalogQuery.read? (columnsText n) =
    some (.columns (.equals "c0.TABLE_NAME" :: ownerCondition n "c0.OWNER")) := by
  have read : CatalogQuery.readAfter? CatalogQuery.columnsStart CatalogQuery.readOrdered?
      (columnsText n) = some (.equals "c0.TABLE_NAME" :: ownerCondition n "c0.OWNER") := by
    rw [columnsText_eq, CatalogQuery.readAfter?_append, readOrdered?_ownerFilter]
  have starts : Text.startsWith "SELECT c0." (columnsText n) = true :=
    startsWith_column_columnsText n
  have objects : Text.startsWith (CatalogQuery.countStart .objects) (columnsText n) = false :=
    startsWith_other starts rfl rfl
  have sequences : Text.startsWith (CatalogQuery.countStart .sequences) (columnsText n) = false :=
    startsWith_other starts rfl rfl
  unfold CatalogQuery.read?
  rw [CatalogQuery.readAfter?_other objects, CatalogQuery.readAfter?_other sequences, read]
  rfl

end Catalog

section Names

variable (likes : String → String → Bool)

-- Whether the name may be that of something which this owner has.
def ObjectName.admits (n : ObjectName) (owner : String) : Bool :=
  n.owner.all fun given => likes ("^" ++ given ++ "$") owner

def OwnedObject.isNamed (kind : ObjectKind) (n : ObjectName) (o : OwnedObject) : Bool :=
  o.kind == kind && o.name == n.name && n.admits likes o.owner

def OwnedColumn.isNamed (n : ObjectName) (c : OwnedColumn) : Bool :=
  c.table == n.name && n.admits likes c.owner

theorem Catalog.meets_ownerCondition (n : ObjectName) {cells : Keyed String}
    {column owner : String} (cell : cells.get? column = some owner) :
    Condition.meets likes cells (ownerCondition n column) (ownerParams n) =
      n.admits likes owner := by
  obtain ⟨given | given, name⟩ := n
  next => rfl
  next => simp [ownerCondition, ownerParams, ownerPattern, Condition.meets, cell, ObjectName.admits]

theorem ObjectKind.text_beq (a b : ObjectKind) : (a.text == b.text) = (a == b) := by
  cases a <;> cases b <;> decide

theorem Catalog.meets_conditions (kind : ObjectKind) (n : ObjectName) (o : OwnedObject) :
    ((CatalogView.ofKind kind).shows o &&
      Condition.meets likes ((CatalogView.ofKind kind).cells o) (conditions n kind)
        (.text n.name :: ownerParams n)) = o.isNamed likes kind n := by
  have object : Condition.meets likes (CatalogView.objects.cells o)
        (.literal "OBJECT_TYPE" kind.text :: .equals "OBJECT_NAME" :: ownerCondition n "OWNER")
          (.text n.name :: ownerParams n) = o.isNamed likes kind n := by
    have type : Keyed.get? (CatalogView.objects.cells o) "OBJECT_TYPE" = some o.kind.text := rfl
    have name : Keyed.get? (CatalogView.objects.cells o) "OBJECT_NAME" = some o.name := rfl
    have owner : Keyed.get? (CatalogView.objects.cells o) "OWNER" = some o.owner := rfl
    simp [Condition.meets, type, name, meets_ownerCondition likes n owner, OwnedObject.isNamed,
      Bool.and_assoc, ObjectKind.text_beq]
  cases kind with
  | table => exact object
  | view => exact object
  | sequence =>
    have name : Keyed.get? (CatalogView.sequences.cells o) "SEQUENCE_NAME" = some o.name := rfl
    have owner : Keyed.get? (CatalogView.sequences.cells o) "SEQUENCE_OWNER" = some o.owner := rfl
    simp [CatalogView.ofKind, CatalogView.shows, conditions, Condition.meets, name,
      meets_ownerCondition likes n owner, OwnedObject.isNamed, Bool.and_assoc]

theorem Catalog.meets_columns (n : ObjectName) (c : OwnedColumn) :
    Condition.meets likes c.cells (.equals "c0.TABLE_NAME" :: ownerCondition n "c0.OWNER")
      (.text n.name :: ownerParams n) = c.isNamed likes n := by
  have cell : c.cells.get? "c0.OWNER" = some c.owner := rfl
  have name : c.cells.get? "c0.TABLE_NAME" = some c.table := rfl
  simp [Condition.meets, name, meets_ownerCondition likes n cell, OwnedColumn.isNamed]

end Names

namespace Holdings

variable (likes : String → String → Bool)

def count (h : Holdings) (view : CatalogView) (conditions : List Condition)
    (params : List Value) : Nat :=
  h.objects.countP fun o => view.shows o && Condition.meets likes (view.cells o) conditions params

def reported (h : Holdings) (keyTable : String) (conditions : List Condition)
    (params : List Value) : List Column :=
  (h.columns.filter fun c => Condition.meets likes c.cells conditions params).map
    (OwnedColumn.reported keyTable)

end Holdings

def Column.Precedes (a b : Column) : Prop :=
  a.ordinal ≤ b.ordinal

/-- The queries of the catalog are evaluated as they are written, for what each owner holds. -/
structure ShowsCatalog {σ : Type} (engine : Engine σ) (held : σ → Holdings)
    (likes : String → String → Bool) : Prop where
  counts : ∀ sql params x view conditions,
    CatalogQuery.read? sql = some (.count view conditions) →
      ∃ rows y, engine.execute sql params x = (.ok rows, y) ∧ held y = held x ∧
        Catalog.countOf? rows = some (Row.clamp ((held x).count likes view conditions params))
  columns : ∀ sql keyTable params x conditions,
    CatalogQuery.read? sql = some (.columns conditions) →
      ∃ rows y columns, engine.execute sql (.text keyTable :: params) x = (.ok rows, y) ∧
        held y = held x ∧ rows.mapM Catalog.columnOf? = some columns ∧
        columns.Perm ((held x).reported likes keyTable conditions params) ∧
        columns.Pairwise Column.Precedes

theorem Row.clamp_pos_iff (n : Nat) : 0 < Row.clamp n ↔ 0 < n := by
  rw [clamp_eq]
  omega

theorem Holdings.count_pos (likes : String → String → Bool) (h : Holdings) (kind : ObjectKind)
    (n : ObjectName) :
    decide (0 < Row.clamp (h.count likes (.ofKind kind) (Catalog.conditions n kind)
        (.text n.name :: Catalog.ownerParams n))) =
      h.objects.any (OwnedObject.isNamed likes kind n) := by
  rw [count, funext (Catalog.meets_conditions likes kind n), Bool.eq_iff_iff, decide_eq_true_iff,
    Row.clamp_pos_iff, List.countP_pos_iff, List.any_eq_true]

theorem Holdings.reported_eq (likes : String → String → Bool) (h : Holdings) (n : ObjectName) :
    h.reported likes n.name (.equals "c0.TABLE_NAME" :: Catalog.ownerCondition n "c0.OWNER")
        (.text n.name :: Catalog.ownerParams n) =
      (h.columns.filter (OwnedColumn.isNamed likes n)).map OwnedColumn.column := by
  rw [reported, funext (Catalog.meets_columns likes n)]
  refine List.map_congr_left fun c member => ?_
  -- The key is looked up for the table that has the column.
  have same : (c.table == n.name) = true := by
    have named := (List.mem_filter.1 member).2
    rw [OwnedColumn.isNamed, Bool.and_eq_true] at named
    exact named.1
  rw [OwnedColumn.reported, same, Bool.and_true]

namespace ShowsCatalog

variable {σ : Type} {engine : Engine σ} {observers : List Observer} {held : σ → Holdings}
  {likes : String → String → Bool}

theorem sends_has (shows : ShowsCatalog engine held likes) (passive : ∀ o ∈ observers, o.IsPassive)
    (kind : ObjectKind) (n : ObjectName) (s : Session σ) :
    ∃ t, Session.Sends engine observers (Catalog.has kind n) s [Catalog.countText n kind]
        (.ok ((held s.engine).objects.any (OwnedObject.isNamed likes kind n))) t ∧
      held t.engine = held s.engine ∧ t.ledgerKnown = s.ledgerKnown := by
  obtain ⟨rows, x, replies, same, counted⟩ := shows.counts _ (.text n.name :: Catalog.ownerParams n)
    s.engine _ _ (Catalog.read?_countText n kind)
  obtain ⟨t, sent, reached, known⟩ := Session.Sends.execute passive replies
  refine ⟨t, .orNotFound (sent.bind_done ?_), reached ▸ same, known⟩
  rw [counted, ← Holdings.count_pos]
  rfl

theorem sends_columns (shows : ShowsCatalog engine held likes)
    (passive : ∀ o ∈ observers, o.IsPassive) (n : ObjectName) (s : Session σ) :
    ∃ t columns, Session.Sends engine observers (Catalog.columns n) s [Catalog.columnsText n]
        (.ok columns) t ∧
      held t.engine = held s.engine ∧ t.ledgerKnown = s.ledgerKnown ∧
      columns.Perm (((held s.engine).columns.filter (OwnedColumn.isNamed likes n)).map
        OwnedColumn.column) ∧
      columns.Pairwise Column.Precedes := by
  obtain ⟨rows, x, columns, replies, same, read, all, ordered⟩ := shows.columns _ n.name
    (.text n.name :: Catalog.ownerParams n) s.engine _ (Catalog.read?_columnsText n)
  obtain ⟨t, sent, reached, known⟩ := Session.Sends.execute passive replies
  rw [Holdings.reported_eq] at all
  refine ⟨t, columns, .orNotFound (sent.bind_done ?_), reached ▸ same, known, all, ordered⟩
  rw [read]
  rfl

end ShowsCatalog

end OracleSql
