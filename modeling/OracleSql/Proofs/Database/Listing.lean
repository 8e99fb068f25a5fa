import OracleSql.Index
import OracleSql.Proofs.Session.Transcript
import OracleSql.Session.Script
import Mathlib.Data.List.Nodup
import Mathlib.Data.List.Pairwise

set_option autoImplicit false

namespace OracleSql

open Session

namespace Row

def IsAbout (row : Row) (index : String) : Prop :=
  row.text? "name" = some index

def IsForKey (row : Row) : Prop :=
  row.text? "constraint" = some "P"

instance (row : Row) : Decidable row.IsForKey :=
  inferInstanceAs (Decidable (_ = _))

end Row

namespace Catalog

def indexParams (options : Options) (table : ObjectName) : List Value :=
  [.text table.name, .text (indexOwner options table)]

/-- The rows that the two queries are answered with. A table that is missing has none, and the
second query is sent only if there is an index to be listed. -/
inductive Answered (params : List Value) : List Exchange → List Row → List Row → Prop where
  | missing {e : EngineError} (gone : e.isNotFound = true) :
      Answered params [⟨indexesText, params, .error e⟩] [] []
  | none {rows : List Row} (none : secondaryNames rows = []) :
      Answered params [⟨indexesText, params, .ok rows⟩] rows []
  | some {rows columns : List Row} (some : secondaryNames rows ≠ []) :
      Answered params [⟨indexesText, params, .ok rows⟩, ⟨indexColumnsText, params, .ok columns⟩]
        rows columns

def columnsGiven (rows : List Row) (index : String) : List String :=
  rows.filterMap fun row => if row.text? "index" = some index then row.text? "name" else none

/-- What is listed: an index for each row without a primary key, and the columns only with the first
index of a name. -/
structure Lists (rows columns : List Row) (listed : List Index) : Prop where
  names : listed.map Index.name =
    (rows.filter fun row => ¬row.IsForKey).filterMap fun row => row.text? "name"
  columns : ∀ before index after, listed = before ++ index :: after →
    index.columns =
      if index.name ∈ before.map Index.name then [] else columnsGiven columns index.name

/-- Each secondary index once and with its columns, and no index of a primary key. -/
structure ListsOnce (rows columns : List Row) (listed : List Index) : Prop where
  distinct : (listed.map Index.name).Nodup
  secondary : ∀ name, name ∈ listed.map Index.name ↔
    (∃ row ∈ rows, row.IsAbout name) ∧ ∀ row ∈ rows, row.IsAbout name → ¬row.IsForKey
  columns : ∀ index ∈ listed, index.columns = columnsGiven columns index.name

-- Two rows about one index are both for a primary key.
def Unambiguous (rows : List Row) : Prop :=
  rows.Pairwise fun a b => ∀ name, a.IsAbout name → b.IsAbout name → a.IsForKey ∧ b.IsForKey

theorem secondaryNames_eq (rows : List Row) :
    secondaryNames rows =
      (rows.filter fun row => ¬row.IsForKey).filterMap fun row => row.text? "name" := by
  have same : (fun row : Row => row.text? "constraint" != some "P") =
      fun row => decide ¬row.IsForKey := by
    funext row
    exact Bool.eq_iff_iff.2 (bne_iff_ne.trans decide_eq_true_iff.symm)
  rw [secondaryNames, same]

theorem mem_secondaryNames {rows : List Row} {name : String} :
    name ∈ secondaryNames rows ↔ ∃ row ∈ rows, ¬row.IsForKey ∧ row.IsAbout name := by
  simp [secondaryNames_eq, Row.IsAbout, and_assoc]

theorem columnsOfIndex_eq (rows : List Row) (index : String) :
    columnsOfIndex rows index = columnsGiven rows index := by
  induction rows with
  | nil => rfl
  | cons row rest ih =>
    have given : columnsOfIndex (row :: rest) index =
        (columnsGiven [row] index) ++ columnsOfIndex rest index := by
      simp only [columnsOfIndex, columnsGiven, indexColumn?, List.filterMap_cons]
      cases row.text? "index" with
      | none => simp
      | some owner =>
        cases row.text? "name" with
        | none => simp
        | some column => by_cases same : owner = index <;> simp [same]
    rw [given, ih, columnsGiven, columnsGiven, ← List.filterMap_append]
    rfl

theorem columns_gatherIndexes {rows : List Row} {seen names : List String}
    {before after : List Index} {index : Index}
    (h : gatherIndexes rows seen names = before ++ index :: after) :
    index.columns = if index.name ∈ seen ∨ index.name ∈ before.map Index.name then []
      else columnsGiven rows index.name := by
  induction names generalizing seen before with
  | nil => simp [gatherIndexes] at h
  | cons name rest ih =>
    rw [gatherIndexes] at h
    cases before with
    | nil =>
      obtain ⟨rfl, -⟩ := List.cons.inj h
      simp [columnsOfIndex_eq]
    | cons first before =>
      obtain ⟨rfl, later⟩ := List.cons.inj h
      rw [ih later]
      simp [or_left_comm, or_assoc]

theorem lists_gatherIndexes (rows columns : List Row) :
    Lists rows columns (gatherIndexes columns [] (secondaryNames rows)) where
  names := by rw [map_name_gatherIndexes, secondaryNames_eq]
  columns before index after h := by simpa using columns_gatherIndexes h

theorem nodup_secondaryNames_iff (rows : List Row) :
    (secondaryNames rows).Nodup ↔ rows.Pairwise fun a b =>
      ∀ name, a.IsAbout name → b.IsAbout name → a.IsForKey ∨ b.IsForKey := by
  rw [secondaryNames_eq, List.Nodup, List.pairwise_filterMap, List.pairwise_filter]
  constructor
  next =>
    refine .imp fun {a b} differ name named named' => ?_
    by_contra neither
    obtain ⟨other, other'⟩ := not_or.1 neither
    exact differ (by simpa using other) (by simpa using other') name named name named' rfl
  next =>
    refine .imp fun {a b} one other other' name named name' named' same => ?_
    rcases one name named (same ▸ named') with forKey | forKey
    next => simp [forKey] at other
    next => simp [forKey] at other'

theorem Unambiguous.isForKey_iff {rows : List Row} (h : Unambiguous rows) {a b : Row}
    (first : a ∈ rows) (second : b ∈ rows) {name : String} (about : a.IsAbout name)
    (about' : b.IsAbout name) : a.IsForKey ↔ b.IsForKey := by
  have alike : rows.Pairwise fun a b =>
      ∀ name, a.IsAbout name → b.IsAbout name → (a.IsForKey ↔ b.IsForKey) :=
    h.imp fun both name named named' =>
      iff_of_true (both name named named').1 (both name named named').2
  exact alike.forall_of_forall_of_flip (fun _ _ _ _ _ => Iff.rfl)
    (alike.imp fun same name named named' => (same name named' named).symm)
    first second name about about'

theorem Lists.columns_eq {rows columns : List Row} {listed : List Index}
    (h : Lists rows columns listed) (distinct : (listed.map Index.name).Nodup) {index : Index}
    (member : index ∈ listed) : index.columns = columnsGiven columns index.name := by
  obtain ⟨before, after, split⟩ := List.append_of_mem member
  have new : index.name ∉ before.map Index.name := by
    rw [split, List.map_append, List.map_cons, List.nodup_middle, List.nodup_cons] at distinct
    exact fun earlier => distinct.1 (List.mem_append_left _ earlier)
  rw [h.columns _ _ _ split, if_neg new]

-- A name that comes in two rows is listed twice if neither is for a primary key, and listed
-- although it should not be if one is.
theorem Lists.once_iff {rows columns : List Row} {listed : List Index}
    (h : Lists rows columns listed) : ListsOnce rows columns listed ↔ Unambiguous rows := by
  have names : listed.map Index.name = secondaryNames rows :=
    h.names.trans (secondaryNames_eq rows).symm
  constructor
  next =>
    intro once
    have distinct := once.distinct
    rw [names, nodup_secondaryNames_iff] at distinct
    have secondary := once.secondary
    rw [names] at secondary
    refine distinct.imp_of_mem fun {a b} first second one name named named' => ?_
    have listed_of (row : Row) (member : row ∈ rows) (about : row.IsAbout name)
        (other : ¬row.IsForKey) : ∀ row ∈ rows, row.IsAbout name → ¬row.IsForKey :=
      ((secondary name).1 (mem_secondaryNames.2 ⟨row, member, other, about⟩)).2
    rcases one name named named' with forKey | forKey
    next =>
      exact ⟨forKey, by_contra fun other => listed_of b second named' other a first named forKey⟩
    next =>
      exact ⟨by_contra fun other => listed_of a first named other b second named' forKey, forKey⟩
  next =>
    intro unambiguous
    have distinct : (listed.map Index.name).Nodup := by
      rw [names, nodup_secondaryNames_iff]
      exact unambiguous.imp fun both name named named' => .inl (both name named named').1
    refine ⟨distinct, fun name => ?_, fun index => h.columns_eq distinct⟩
    rw [names, mem_secondaryNames]
    constructor
    next =>
      rintro ⟨row, member, other, named⟩
      exact ⟨⟨row, member, named⟩, fun row' member' named' forKey =>
        other ((unambiguous.isForKey_iff member member' named named').2 forKey)⟩
    next =>
      rintro ⟨⟨row, member, named⟩, none⟩
      exact ⟨row, member, none row member named, named⟩

inductive Listing (params : List Value) : List Exchange → Except Failure (List Index) → Prop where
  | answered {sent : List Exchange} {rows columns : List Row}
      (replies : Answered params sent rows columns) :
      Listing params sent (.ok (gatherIndexes columns [] (secondaryNames rows)))
  | refused {e : EngineError} (there : ¬e.isNotFound = true) :
      Listing params [⟨indexesText, params, .error e⟩] (.error (.engine e))
  | stopped {rows : List Row} {e : EngineError} :
      Listing params
        [⟨indexesText, params, .ok rows⟩, ⟨indexColumnsText, params, .error e⟩] (.error (.engine e))

theorem Listing.eq_of_answered {params : List Value} {sent : List Exchange}
    {out : Except Failure (List Index)} {rows columns : List Row}
    (listing : Listing params sent out) (replies : Answered params sent rows columns) :
    out = .ok (gatherIndexes columns [] (secondaryNames rows)) := by
  cases replies with
  | missing gone =>
    cases listing with
    | answered replies => cases replies; rfl
    | refused there => exact absurd gone there
  | none none =>
    cases listing with
    | answered replies =>
      cases replies
      rw [none]
  | some some =>
    cases listing with
    | answered replies => cases replies; rfl

def listFrom (params : List Value) (rows : List Row) : Action (List Index) :=
  if (secondaryNames rows).isEmpty then pure []
  else do
    let columns ← Action.execute indexColumnsText params none
    pure (gatherIndexes columns [] (secondaryNames rows))

theorem indexes_eq (options : Options) (table : ObjectName) :
    indexes options table =
      Action.orNotFound (Action.execute indexesText (indexParams options table) none) [] >>=
        listFrom (indexParams options table) := rfl

section Listing

variable {σ : Type} (engine : Engine σ) (observers : List Observer) (options : Options)
  (table : ObjectName) (s : Session σ)

theorem listing_indexes :
    Listing (indexParams options table) (exchanges engine observers (indexes options table) s)
      (perform engine observers (indexes options table) s).1 := by
  obtain ⟨first, t, asked, sent⟩ := exists_reply_orNotFound engine observers indexesText
    (indexParams options table) [] s
  rw [indexes_eq]
  generalize indexParams options table = params at asked sent ⊢
  cases first with
  | error e =>
    by_cases gone : e.isNotFound = true
    next =>
      simp only [gone, if_true] at asked
      rw [perform_bind_ok asked, exchanges_bind_ok asked, sent]
      exact .answered (.missing gone)
    next =>
      simp only [gone] at asked
      rw [perform_bind_error asked, exchanges_bind_error asked, sent]
      exact .refused gone
  | ok rows =>
    rw [perform_bind_ok asked, exchanges_bind_ok asked, sent, listFrom]
    by_cases none : secondaryNames rows = []
    next =>
      have answered : Listing params [⟨indexesText, params, .ok rows⟩]
          (.ok (gatherIndexes [] [] (secondaryNames rows))) := .answered (.none none)
      rw [none] at answered
      rw [if_pos (List.isEmpty_iff.2 none)]
      exact answered
    next =>
      rw [if_neg (mt List.isEmpty_iff.1 none)]
      obtain ⟨second, u, asked', sent'⟩ := exists_reply engine observers indexColumnsText
        params Option.none t
      cases second with
      | error e =>
        rw [perform_bind_error asked', exchanges_bind_error asked', sent']
        exact .stopped
      | ok columns =>
        rw [perform_bind_ok asked', exchanges_bind_ok asked', sent']
        exact .answered (.some none)

/-- A listing succeeds just if its queries are answered with rows. Each secondary index is listed
once, and no index of a primary key, just if two rows about one index are both for a primary key. -/
theorem lists_once_iff :
    ((∃ listed, (perform engine observers (indexes options table) s).1 = .ok listed) ↔
        ∃ rows columns, Answered (indexParams options table)
          (exchanges engine observers (indexes options table) s) rows columns) ∧
      ∀ rows columns, Answered (indexParams options table)
          (exchanges engine observers (indexes options table) s) rows columns →
        ∃ listed, (perform engine observers (indexes options table) s).1 = .ok listed ∧
          Lists rows columns listed ∧ (ListsOnce rows columns listed ↔ Unambiguous rows) := by
  have listing := listing_indexes engine observers options table s
  generalize exchanges engine observers (indexes options table) s = sent at listing ⊢
  generalize (perform engine observers (indexes options table) s).1 = out at listing ⊢
  refine ⟨⟨?_, ?_⟩, fun rows columns replies => ?_⟩
  next =>
    rintro ⟨listed, rfl⟩
    cases listing with
    | answered replies => exact ⟨_, _, replies⟩
  next =>
    rintro ⟨rows, columns, replies⟩
    exact ⟨_, listing.eq_of_answered replies⟩
  next =>
    have lists := lists_gatherIndexes rows columns
    exact ⟨_, listing.eq_of_answered replies, lists, lists.once_iff⟩

end Listing

end Catalog

def indexRow (index : String) (constraint : Option String) : Row :=
  [("constraint", Json.ofOption .text constraint), ("name", .text index), ("type", .text "NORMAL")]

def indexColumnRow (index column : String) : Row :=
  [("index", .text index), ("name", .text column)]

def constrainedRows : List Row :=
  [indexRow "I" (some "P"), indexRow "I" (some "U"), indexRow "J" (some "U"),
    indexRow "J" (some "U"), indexRow "K" none]

def constrainedColumns : List Row :=
  [indexColumnRow "I" "a", indexColumnRow "I" "b", indexColumnRow "J" "b", indexColumnRow "K" "c"]

def constrainedIndexes : List Index :=
  [⟨"I", ["a", "b"]⟩, ⟨"J", ["b"]⟩, ⟨"J", []⟩, ⟨"K", ["c"]⟩]

theorem key_index_listed :
    Catalog.Answered (Catalog.indexParams .empty ⟨none, "T"⟩)
        (exchanges Script.engine [] (Catalog.indexes .empty ⟨none, "T"⟩)
          (Session.start ⟨[.ok constrainedRows, .ok constrainedColumns], fun _ => none⟩))
        constrainedRows constrainedColumns ∧
      (perform Script.engine [] (Catalog.indexes .empty ⟨none, "T"⟩)
          (Session.start ⟨[.ok constrainedRows, .ok constrainedColumns], fun _ => none⟩)).1 =
        .ok constrainedIndexes ∧
      ("I" ∈ constrainedIndexes.map Index.name ∧
        ∃ row ∈ constrainedRows, row.IsAbout "I" ∧ row.IsForKey) ∧
      ¬(constrainedIndexes.map Index.name).Nodup ∧
      ¬Catalog.ListsOnce constrainedRows constrainedColumns constrainedIndexes := by
  have repeated : ¬(constrainedIndexes.map Index.name).Nodup := by decide
  exact ⟨.some (by decide +kernel), by decide +kernel,
    ⟨by decide, indexRow "I" (some "P"), List.mem_cons_self, rfl, rfl⟩, repeated,
    fun once => repeated once.distinct⟩

end OracleSql
