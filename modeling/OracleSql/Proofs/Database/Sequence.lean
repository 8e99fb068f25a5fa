import OracleSql.Proofs.Database.Catalog
import OracleSql.Proofs.Migration.Memory
import OracleSql.Proofs.Schema.Names

set_option autoImplicit false

namespace OracleSql

open Sql

-- A name without an owner means the sequence of the user.
inductive SequenceStatement where
  | create (sequence : ObjectName)
  | restart (sequence : ObjectName)
  | draw (sequence : ObjectName) (column : String)
  deriving DecidableEq

namespace SequenceStatement

def sequence : SequenceStatement → ObjectName
  | .create sequence | .restart sequence | .draw sequence _ => sequence

def tokensAfter? (start sql : String) : Option (List Token) :=
  if Text.startsWith start sql then (scan sql.toList).bind (after? start) else none

def readDraw? (ts : List Token) : Option SequenceStatement := do
  let (sequence, ts) ← ObjectName.read? ts
  match ← after? ".nextval AS " ts with
  | .quoted .name column :: _ => some (.draw sequence (String.ofList column))
  | _ => none

def readName? (ts : List Token) : Option ObjectName :=
  (ObjectName.read? ts).map Prod.fst

-- A query of the catalog is none of these.
def read? (sql : String) : Option SequenceStatement :=
  if (CatalogQuery.read? sql).isSome then none
  else
    (((tokensAfter? "CREATE SEQUENCE " sql).bind readName?).map .create <|>
      ((tokensAfter? "ALTER SEQUENCE " sql).bind readName?).map .restart) <|>
    (tokensAfter? "SELECT " sql).bind readDraw?

theorem tokensAfter?_of_scan {start sql : String} {ts : List Token}
    (starts : Text.startsWith start sql = true)
    (scanned : scan sql.toList = some (plains start ++ ts)) :
    tokensAfter? start sql = some ts := by
  rw [tokensAfter?, if_pos starts, scanned, Option.bind_some, after?_plains]

theorem tokensAfter?_other {start sql : String} (other : Text.startsWith start sql = false) :
    tokensAfter? start sql = none := by
  rw [tokensAfter?, other]
  rfl

theorem catalog_of_read? {sql : String} {st : SequenceStatement} (h : read? sql = some st) :
    CatalogQuery.read? sql = none := by
  unfold read? at h
  split at h
  next => cases h
  next other => simpa using other

theorem eq_draw_of_query {sql : String} {st : SequenceStatement} (h : read? sql = some st)
    (query : Text.startsWith "SELECT " sql = true) : ∃ n column, st = .draw n column := by
  rw [read?, catalog_of_read? h, tokensAfter?_other (startsWith_other query rfl rfl),
    tokensAfter?_other (startsWith_other query rfl rfl)] at h
  obtain ⟨ts, -, draw⟩ := Option.bind_eq_some_iff.1 h
  obtain ⟨⟨n, rest⟩, -, draw⟩ := Option.bind_eq_some_iff.1 draw
  obtain ⟨after, -, draw⟩ := Option.bind_eq_some_iff.1 draw
  split at draw
  next column _ => exact ⟨n, String.ofList column, (Option.some.inj draw).symm⟩
  next => cases draw

end SequenceStatement

theorem CatalogQuery.read?_eq_none {sql : String}
    (count : Text.startsWith "SELECT COUNT(" sql = false)
    (column : Text.startsWith "SELECT c0." sql = false) : read? sql = none := by
  have columns : Text.startsWith columnsStart sql = false := by
    refine startsWith_longer ?_ column
    unfold columnsStart
    iterate 9 refine startsWith_append ?_ _
    exact startsWith_literal rfl
  have counts (view : CatalogView) : Text.startsWith (countStart view) sql = false := by
    refine startsWith_longer ?_ count
    cases view <;> exact startsWith_literal rfl
  unfold read?
  rw [readAfter?_other columns, readAfter?_other (counts _), readAfter?_other (counts _)]
  rfl

namespace Identity

def restartText (sequence : String) (start : Int) : String :=
  "ALTER SEQUENCE " ++ Name.quote sequence ++ " RESTART START WITH " ++ toString start ++
    " INCREMENT BY 1"

theorem startsWith_restartText (sequence : String) (start : Int) :
    Text.startsWith "ALTER SEQUENCE " (restartText sequence start) = true := by
  unfold restartText
  iterate 4 refine startsWith_append ?_ _
  exact startsWith_literal rfl

theorem startsWith_quote_nextText (sequence : String) :
    Text.startsWith "SELECT \"" (nextText sequence) = true := by
  simp [Text.startsWith, nextText, Name.quote, String.toList_append]

theorem startsWith_max_maximumText (table : ObjectName) (column : String) :
    Text.startsWith "SELECT MAX(" (maximumText table column) = true := by
  unfold maximumText
  iterate 3 refine startsWith_append ?_ _
  exact startsWith_literal rfl

theorem startsWith_maximumText (table : ObjectName) (column : String) :
    Text.startsWith "SELECT " (maximumText table column) = true :=
  startsWith_shorter (startsWith_max_maximumText table column) rfl

theorem read?_createText (sequence : String) :
    SequenceStatement.read? (createText sequence) = some (.create ⟨none, sequence⟩) := by
  have starts := startsWith_createText sequence
  have none : CatalogQuery.read? (createText sequence) = none :=
    CatalogQuery.read?_eq_none (startsWith_other starts rfl rfl) (startsWith_other starts rfl rfl)
  rw [SequenceStatement.read?, none, SequenceStatement.tokensAfter?_of_scan starts
    (Memory.scan_createText sequence)]
  simp [SequenceStatement.readName?, ObjectName.read?, plains]

theorem read?_restartText (sequence : String) (start : Int) :
    SequenceStatement.read? (restartText sequence start) = some (.restart ⟨none, sequence⟩) := by
  have starts := startsWith_restartText sequence start
  have none : CatalogQuery.read? (restartText sequence start) = none :=
    CatalogQuery.read?_eq_none (startsWith_other starts rfl rfl) (startsWith_other starts rfl rfl)
  have scanned := scan_eq_some_iff.2 (SchemaChange.written_restart sequence start)
  rw [List.append_assoc] at scanned
  rw [SequenceStatement.read?, none,
    SequenceStatement.tokensAfter?_other (startsWith_other starts rfl rfl),
    SequenceStatement.tokensAfter?_of_scan starts scanned]
  simp [SequenceStatement.readName?, ObjectName.read?, plains, TableItem.nameTokens]

theorem written_nextText (sequence : String) : Written (nextText sequence).toList
    (plains "SELECT " ++ (.quoted .name sequence.toList :: (plains ".nextval AS " ++
      (.quoted .name "resultId".toList :: plains " FROM DUAL")))) := by
  have column : r#".nextval AS "resultId" FROM DUAL"# =
      ".nextval AS " ++ Name.quote "resultId" ++ " FROM DUAL" := by
    decide +kernel
  have all := (((written_quote sequence).between (written_quote "resultId") ".nextval AS "
    (by decide) (by decide)).before " FROM DUAL" (by decide)).after "SELECT " (by decide)
  rw [nextText, column]
  simpa [String.append_assoc] using all

-- The dot after the name is not one between an owner and a name.
theorem readDraw?_tokens (sequence : String) (column : List Char) (ts : List Token) :
    SequenceStatement.readDraw? (.quoted .name sequence.toList ::
      (plains ".nextval AS " ++ (.quoted .name column :: ts))) =
        some (.draw ⟨none, sequence⟩ (String.ofList column)) := by
  have name (ts : List Token) : ObjectName.read? (.quoted .name sequence.toList ::
      (plains ".nextval AS " ++ ts)) = some (⟨none, sequence⟩, plains ".nextval AS " ++ ts) := by
    simp [plains, ObjectName.read?]
  simp only [SequenceStatement.readDraw?, name, after?_plains, Option.bind_eq_bind, Option.bind_some]

theorem read?_nextText (sequence : String) :
    SequenceStatement.read? (nextText sequence) = some (.draw ⟨none, sequence⟩ "resultId") := by
  have starts := startsWith_quote_nextText sequence
  have none : CatalogQuery.read? (nextText sequence) = none :=
    CatalogQuery.read?_eq_none (startsWith_other starts rfl rfl) (startsWith_other starts rfl rfl)
  rw [SequenceStatement.read?, none,
    SequenceStatement.tokensAfter?_other (startsWith_other starts rfl rfl),
    SequenceStatement.tokensAfter?_other (startsWith_other starts rfl rfl),
    SequenceStatement.tokensAfter?_of_scan (startsWith_nextText sequence)
      (scan_eq_some_iff.2 (written_nextText sequence)), Option.bind_some, readDraw?_tokens,
    String.ofList_toList]
  rfl

theorem written_maximumText (table : ObjectName) (column : String) :
    Written (maximumText table column).toList
      (plains "SELECT " ++ (plains "MAX(" ++ (.quoted .name column.toList :: (plains ") AS " ++
        (.quoted .name "maxValue".toList :: (plains " FROM " ++ table.tokens)))))) := by
  have named : r#") AS "maxValue" FROM "# = ") AS " ++ Name.quote "maxValue" ++ " FROM " := by
    decide +kernel
  have all := ((((written_quote column).between (written_quote "maxValue") ") AS " (by decide)
    (by decide)).between table.written_render " FROM " (by decide) (by decide)).after "MAX("
      (by decide)).after "SELECT " (by decide)
  have start : "SELECT MAX(" = "SELECT " ++ "MAX(" := by decide +kernel
  rw [maximumText, named, start]
  simpa [String.append_assoc] using all

theorem read?_maximumText (table : ObjectName) (column : String) :
    SequenceStatement.read? (maximumText table column) = none := by
  have starts := startsWith_maximumText table column
  have scanned := scan_eq_some_iff.2 (written_maximumText table column)
  unfold SequenceStatement.read?
  split
  next => rfl
  next =>
    rw [SequenceStatement.tokensAfter?_other (startsWith_other starts rfl rfl),
      SequenceStatement.tokensAfter?_other (startsWith_other starts rfl rfl),
      SequenceStatement.tokensAfter?_of_scan starts scanned]
    -- What is selected is no name.
    simp [SequenceStatement.readDraw?, ObjectName.read?, plains]

theorem read?_countText (n : ObjectName) (kind : ObjectKind) :
    SequenceStatement.read? (Catalog.countText n kind) = none := by
  rw [SequenceStatement.read?, Catalog.read?_countText]
  rfl

end Identity

def Holdings.withObject (h : Holdings) (o : OwnedObject) : Holdings :=
  { h with objects := o :: h.objects }

def SequenceStatement.object (user : String) (st : SequenceStatement) : OwnedObject :=
  ⟨st.sequence.owner.getD user, .sequence, st.sequence.name⟩

/-- A sequence can be created once, and used once it is there. Nothing else becomes of a query. -/
structure KeepsSequences {σ : Type} (engine : Engine σ) (held : σ → Holdings) (user : String) :
    Prop where
  creates : ∀ sql params x n, SequenceStatement.read? sql = some (.create n) →
    SequenceStatement.object user (.create n) ∉ (held x).objects →
      ∃ rows y, engine.execute sql params x = (.ok rows, y) ∧
        held y = (held x).withObject (SequenceStatement.object user (.create n))
  refuses : ∀ sql params x n, SequenceStatement.read? sql = some (.create n) →
    SequenceStatement.object user (.create n) ∈ (held x).objects →
      ∃ e y, engine.execute sql params x = (.error e, y) ∧ held y = held x
  restarts : ∀ sql params x n, SequenceStatement.read? sql = some (.restart n) →
    SequenceStatement.object user (.restart n) ∈ (held x).objects →
      ∃ rows y, engine.execute sql params x = (.ok rows, y) ∧ held y = held x
  draws : ∀ sql params x n column, SequenceStatement.read? sql = some (.draw n column) →
    SequenceStatement.object user (.draw n column) ∈ (held x).objects →
      ∃ rows y value, engine.execute sql params x = (.ok rows, y) ∧ held y = held x ∧
        (rows.head?.bind fun row => row.int? column) = some value
  misses : ∀ sql params x st, SequenceStatement.read? sql = some st → (∀ n, st ≠ .create n) →
    SequenceStatement.object user st ∉ (held x).objects →
      ∃ e y, engine.execute sql params x = (.error e, y) ∧ held y = held x
  queries : ∀ sql params x, Text.startsWith "SELECT " sql = true →
    held (engine.execute sql params x).2 = held x

end OracleSql
