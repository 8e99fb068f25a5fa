import Mathlib.Data.Set.Insert
import OracleSql.Proofs.Migration.Ledger
import OracleSql.Proofs.Schema.Convergence

set_option autoImplicit false

namespace OracleSql

-- What an engine holds, as far as migrations can tell, and what it replies to them. Any statement
-- may fail besides, with one of the given errors and without effect.
structure Contents (κ : Type) where
  tables : κ → Option Database.Table
  sequences : String → Bool
  rows : List LedgerEntry

namespace Contents

variable {κ : Type}

def withSequence (c : Contents κ) (name : String) : Contents κ :=
  { c with sequences := Function.update c.sequences name true }

@[simp] theorem tables_withSequence (c : Contents κ) (name : String) :
    (c.withSequence name).tables = c.tables := rfl

@[simp] theorem sequences_withSequence (c : Contents κ) (name : String) :
    (c.withSequence name).sequences = Function.update c.sequences name true := rfl

def withRow (c : Contents κ) (e : LedgerEntry) : Contents κ :=
  { c with rows := c.rows ++ [e] }

variable [DecidableEq κ]

def withTable (c : Contents κ) (place : κ) (t : Option Database.Table) : Contents κ :=
  { c with tables := Function.update c.tables place t }

@[simp] theorem tables_withTable (c : Contents κ) (place : κ) (t : Option Database.Table) :
    (c.withTable place t).tables = Function.update c.tables place t := rfl

theorem withTable_self {c : Contents κ} {place : κ} {t : Option Database.Table}
    (there : c.tables place = t) : c.withTable place t = c := by
  rw [withTable, Function.update_eq_self_iff.2 there.symm]

@[simp] theorem sequences_withTable (c : Contents κ) (place : κ) (t : Option Database.Table) :
    (c.withTable place t).sequences = c.sequences := rfl

end Contents

def Ledger.name : ObjectName :=
  ⟨none, tableName⟩

def Ledger.bootSequence : String :=
  "migrations_id_seq"

def Identity.createText (sequence : String) : String :=
  "CREATE SEQUENCE " ++ Name.quote sequence ++ " START WITH 1 INCREMENT BY 1"

theorem Identity.startsWith_createText (sequence : String) :
    Text.startsWith "CREATE SEQUENCE " (createText sequence) = true :=
  startsWith_append (startsWith_append (startsWith_literal rfl) _) _

theorem Ledger.createSequenceText_eq : createSequenceText = Identity.createText bootSequence := by
  decide +kernel

def TableStatement.table : TableStatement → ObjectName
  | .create table _ | .add table _ | .modify table _ => table

/-- How to read the states of an engine. More than one name may mean the same table, and the versions
in the ledger are listed in some order that depends on its rows alone. -/
structure Reading (σ κ : Type) where
  contents : σ → Contents κ
  place : ObjectName → κ
  report : String → ReportedType
  ledgerTable : Database.Table
  listed : List LedgerEntry → String → List String
  listed_perm : ∀ rows appliesTo,
    (listed rows appliesTo).Perm (versionsOf appliesTo (rows.map fun e => (e.appliesTo, e.version)))

namespace Reading

variable {σ κ : Type} (R : Reading σ κ)

def tables (x : σ) (n : ObjectName) : Option Database.Table :=
  (R.contents x).tables (R.place n)

/-- Some state has such a table. Not every table can be held, as 64 bits are all that is read of the
catalog's numbers. -/
def Holds (t : Database.Table) : Prop :=
  ∃ x place, (R.contents x).tables place = some t

inductive Answers (faults : Set EngineError) (x : σ) (good : List Row → σ → Prop) :
    Except EngineError (List Row) × σ → Prop where
  | failed {e : EngineError} {y : σ} (fault : e ∈ faults) (same : R.contents y = R.contents x) :
      Answers faults x good (.error e, y)
  | replied {rows : List Row} {y : σ} (told : good rows y) : Answers faults x good (.ok rows, y)

def Reads (faults : Set EngineError) (x : σ) (told : List Row → Prop) :
    Except EngineError (List Row) × σ → Prop :=
  R.Answers faults x fun rows y => R.contents y = R.contents x ∧ told rows

def Makes (faults : Set EngineError) (x : σ) (made : Contents κ) :
    Except EngineError (List Row) × σ → Prop :=
  R.Answers faults x fun _ y => R.contents y = made

/-- The catalog tells the truth, tables change as their statements say unless no state has what
would come of it, a sequence can be created once, and the entry of the request can be inserted with
the number that was drawn for it. -/
structure Serves [DecidableEq κ] (engine : Engine σ) (options : Options) (r : Request)
    (faults : Set EngineError) : Prop where
  findsTable : ∀ n x, R.Reads faults x
    (fun rows => ∃ count, Catalog.countOf? rows = some count ∧ (0 < count ↔ (R.tables x n).isSome))
    (engine.execute (Catalog.countText n .table) (.text n.name :: Catalog.ownerParams n) x)
  findsSequence : ∀ name x, R.Reads faults x
    (fun rows => ∃ count, Catalog.countOf? rows = some count ∧
      (0 < count ↔ (R.contents x).sequences name = true))
    (engine.execute (Catalog.countText ⟨none, name⟩ .sequence) [.text name] x)
  columns : ∀ n x t, R.tables x n = some t → R.Reads faults x
    (fun rows => rows.mapM Catalog.columnOf? = some t.columns)
    (engine.execute (Catalog.columnsText n)
      (.text n.name :: .text n.name :: Catalog.ownerParams n) x)
  versions : ∀ appliesTo x, (R.tables x Ledger.name).isSome → R.Reads faults x
    (fun rows => rows.filterMap (fun row => row.text? "version") =
      R.listed (R.contents x).rows appliesTo)
    (engine.execute Ledger.versionsText [.text appliesTo] x)
  changes : ∀ (st : TableStatement) x after t, st.IsTyped →
    Database.run R.report (R.tables x) st = .ok after → after st.table = some t → R.Holds t →
    R.Makes faults x ((R.contents x).withTable (R.place st.table) (some t))
      (engine.execute st.render [] x)
  refuses : ∀ (st : TableStatement) x after t, st.IsTyped →
    Database.run R.report (R.tables x) st = .ok after → after st.table = some t → ¬R.Holds t →
    ∃ e, (engine.execute st.render [] x).1 = .error e
  makesLedger : ∀ x, R.tables x Ledger.name = none → R.Makes faults x
    ((R.contents x).withTable (R.place Ledger.name) (some R.ledgerTable))
    (engine.execute Ledger.createTableText [] x)
  makesSequence : ∀ name x, (R.contents x).sequences name = false → R.Makes faults x
    ((R.contents x).withSequence name) (engine.execute (Identity.createText name) [] x)
  refusesSequence : ∀ name x, (R.contents x).sequences name = true →
    ∃ e, (engine.execute (Identity.createText name) [] x).1 = .error e
  draws : ∀ x, (R.tables x Ledger.name).isSome →
    (R.contents x).sequences (Identity.sequence options Ledger.tableName Ledger.idName) = true →
    R.Answers faults x
      (fun rows y => R.contents y = R.contents x ∧
        ∃ id, (rows.head?.bind fun row => row.int? "resultId") = some id ∧
          R.Makes faults y ((R.contents y).withRow (r.entry id))
            (engine.execute Ledger.insertText (r.entry id).params y))
      (engine.execute
        (Identity.nextText (Identity.sequence options Ledger.tableName Ledger.idName)) [] x)

namespace Answers

variable {R} {faults : Set EngineError} {x : σ} {good : List Row → σ → Prop}
  {out : Except EngineError (List Row) × σ}

theorem mono (h : R.Answers faults x good out) {good' : List Row → σ → Prop}
    (weaker : ∀ rows y, good rows y → good' rows y) : R.Answers faults x good' out := by
  cases h with
  | failed fault same => exact .failed fault same
  | replied told => exact .replied (weaker _ _ told)

theorem cases (h : R.Answers faults x good out) :
    (∃ e ∈ faults, out.1 = .error e ∧ R.contents out.2 = R.contents x) ∨
      ∃ rows, out.1 = .ok rows ∧ good rows out.2 := by
  cases h with
  | failed fault same => exact .inl ⟨_, fault, rfl, same⟩
  | replied told => exact .inr ⟨_, rfl, told⟩

end Answers

end Reading

/-- The engine as it is, but that the statement at one position fails. -/
def Engine.failing {σ : Type} (engine : Engine σ) (position : Nat) (error : EngineError) :
    Engine (σ × Nat) where
  execute sql params s :=
    if s.2 = position then (.error error, (s.1, s.2 + 1))
    else
      let (reply, x) := engine.execute sql params s.1
      (reply, (x, s.2 + 1))
  hook h s :=
    let (reply, x) := engine.hook h s.1
    (reply, (x, s.2))

namespace Engine

variable {σ : Type} {engine : Engine σ} {sql : String} {params : List Value} {x : σ}
  {position n : Nat} {error : EngineError}

theorem execute_failing_self :
    (engine.failing position error).execute sql params (x, position) =
      (.error error, (x, position + 1)) :=
  if_pos rfl

theorem execute_failing_of_ne (other : n ≠ position) :
    (engine.failing position error).execute sql params (x, n) =
      ((engine.execute sql params x).1, ((engine.execute sql params x).2, n + 1)) :=
  if_neg other

theorem exists_error_failing {e : EngineError}
    (refused : (engine.execute sql params x).1 = .error e)
    (position : Nat) (error : EngineError) (n : Nat) :
    ∃ e, ((engine.failing position error).execute sql params (x, n)).1 = .error e := by
  by_cases here : n = position
  next =>
    subst here
    exact ⟨error, by rw [execute_failing_self]⟩
  next => exact ⟨e, by rw [execute_failing_of_ne here, refused]⟩

end Engine

def Reading.counting {σ κ : Type} (R : Reading σ κ) : Reading (σ × Nat) κ where
  contents s := R.contents s.1
  place := R.place
  report := R.report
  ledgerTable := R.ledgerTable
  listed := R.listed
  listed_perm := R.listed_perm

namespace Reading

theorem holds_counting {σ κ : Type} (R : Reading σ κ) {t : Database.Table} :
    R.counting.Holds t ↔ R.Holds t :=
  ⟨fun ⟨x, place, there⟩ => ⟨x.1, place, there⟩, fun ⟨x, place, there⟩ => ⟨(x, 0), place, there⟩⟩

variable {σ κ : Type} {R : Reading σ κ} {engine : Engine σ}

theorem Answers.failing {x : σ} {good : List Row → σ → Prop} {sql : String} {params : List Value}
    (h : R.Answers ∅ x good (engine.execute sql params x)) (position : Nat) (error : EngineError)
    (n : Nat) : R.counting.Answers {error} (x, n) (fun rows y => good rows y.1)
      ((engine.failing position error).execute sql params (x, n)) := by
  by_cases here : n = position
  next =>
    subst here
    rw [Engine.execute_failing_self]
    exact .failed rfl rfl
  next =>
    rw [Engine.execute_failing_of_ne here]
    generalize engine.execute sql params x = out at h
    cases h with
    | failed fault same => cases fault
    | replied told => exact .replied told

variable [DecidableEq κ] {options : Options} {r : Request}

theorem Serves.failing (serves : R.Serves engine options r ∅) (position : Nat)
    (error : EngineError) :
    R.counting.Serves (engine.failing position error) options r {error} where
  findsTable n x := (serves.findsTable n x.1).failing position error x.2
  findsSequence name x := (serves.findsSequence name x.1).failing position error x.2
  columns n x t there := (serves.columns n x.1 t there).failing position error x.2
  versions appliesTo x there := (serves.versions appliesTo x.1 there).failing position error x.2
  changes st x after t typed runs becomes held :=
    (serves.changes st x.1 after t typed runs becomes (R.holds_counting.1 held)).failing position
      error x.2
  refuses st x after t typed runs becomes apart := by
    obtain ⟨e, refused⟩ := serves.refuses st x.1 after t typed runs becomes
      fun held => apart (R.holds_counting.2 held)
    exact Engine.exists_error_failing refused position error x.2
  makesLedger x absent := (serves.makesLedger x.1 absent).failing position error x.2
  makesSequence name x absent := (serves.makesSequence name x.1 absent).failing position error x.2
  refusesSequence name x there := by
    obtain ⟨e, refused⟩ := serves.refusesSequence name x.1 there
    exact Engine.exists_error_failing refused position error x.2
  draws x there sequence := by
    refine ((serves.draws x.1 there sequence).failing position error x.2).mono ?_
    rintro rows y ⟨same, id, drawn, inserts⟩
    exact ⟨same, id, drawn, inserts.failing position error y.2⟩

end Reading

open Session

/-- The action ends well, or fails for a fault and leaves something to go on from. -/
inductive Reading.Leads {σ κ α : Type} (R : Reading σ κ) (engine : Engine σ)
    (observers : List Observer) (faults : Set EngineError) (action : Action α) (s : Session σ)
    (halfway : Contents κ → Bool → Prop) (post : α → Session σ → Prop) : Prop where
  | interrupted {e : EngineError} {t : Session σ} (fault : e ∈ faults)
      (result : perform engine observers action s = (.error (.engine e), t))
      (kept : halfway (R.contents t.engine) t.ledgerKnown)
  | done {a : α} {t : Session σ} (result : perform engine observers action s = (.ok a, t))
      (reached : post a t)

namespace Session

variable {σ : Type} (engine : Engine σ) {observers : List Observer} {position n : Nat}
  (error : EngineError) (sql : String) (params : List Value) {s : Session (σ × Nat)} {x y : σ}

theorem exists_perform_failing_self (passive : ∀ o ∈ observers, o.IsPassive)
    (here : s.engine = (x, position)) :
    ∃ t, perform (engine.failing position error) observers (Action.execute sql params none) s =
        (.error (.engine error), t) ∧
      t.engine = (x, position + 1) ∧ t.ledgerKnown = s.ledgerKnown := by
  obtain ⟨t, executed, state, -, known⟩ :=
    perform_execute_plain (engine.failing position error) passive sql params s
  rw [here, Engine.execute_failing_self] at executed state
  exact ⟨t, executed, state, known⟩

variable {engine sql params}

theorem exists_perform_failing_of_ne (passive : ∀ o ∈ observers, o.IsPassive)
    (here : s.engine = (x, n)) (other : n ≠ position) {reply : Except EngineError (List Row)}
    (replies : engine.execute sql params x = (reply, y)) :
    ∃ t, perform (engine.failing position error) observers (Action.execute sql params none) s =
        (Action.engineResult reply, t) ∧
      t.engine = (y, n + 1) ∧ t.ledgerKnown = s.ledgerKnown := by
  obtain ⟨t, executed, state, -, known⟩ :=
    perform_execute_plain (engine.failing position error) passive sql params s
  rw [here, Engine.execute_failing_of_ne other, replies] at executed state
  exact ⟨t, executed, state, known⟩

end Session

namespace Reading.Leads

variable {σ κ α β : Type} {R : Reading σ κ} {engine : Engine σ} {observers : List Observer}
  {faults : Set EngineError} {s : Session σ} {halfway : Contents κ → Bool → Prop}

theorem after_ok {a : Action α} {f : α → Action β} {post : β → Session σ → Prop} {x : α}
    {t : Session σ} (first : perform engine observers a s = (.ok x, t))
    (h : R.Leads engine observers faults (f x) t halfway post) :
    R.Leads engine observers faults (a >>= f) s halfway post := by
  cases h with
  | interrupted fault result kept =>
    exact .interrupted fault ((perform_bind_ok first).trans result) kept
  | done result reached => exact .done ((perform_bind_ok first).trans result) reached

theorem bind {a : Action α} {f : α → Action β} {post : α → Session σ → Prop}
    {post' : β → Session σ → Prop} (h : R.Leads engine observers faults a s halfway post)
    (k : ∀ x t, post x t → R.Leads engine observers faults (f x) t halfway post') :
    R.Leads engine observers faults (a >>= f) s halfway post' := by
  cases h with
  | interrupted fault result kept => exact .interrupted fault (perform_bind_error result) kept
  | done result reached => exact after_ok result (k _ _ reached)

theorem mono {a : Action α} {halfway' : Contents κ → Bool → Prop}
    {post post' : α → Session σ → Prop} (h : R.Leads engine observers faults a s halfway post)
    (kept : ∀ c known, halfway c known → halfway' c known)
    (reached : ∀ x t, post x t → post' x t) :
    R.Leads engine observers faults a s halfway' post' := by
  cases h with
  | interrupted fault result start => exact .interrupted fault result (kept _ _ start)
  | done result done => exact .done result (reached _ _ done)

theorem mono_post {a : Action α} {post post' : α → Session σ → Prop}
    (h : R.Leads engine observers faults a s halfway post)
    (reached : ∀ x t, post x t → post' x t) : R.Leads engine observers faults a s halfway post' :=
  h.mono (fun _ _ start => start) reached

theorem reached {a : Action α} {post : α → Session σ → Prop} {x : α} {t : Session σ}
    (h : R.Leads engine observers faults a s halfway post)
    (result : perform engine observers a s = (.ok x, t)) : post x t := by
  cases h with
  | interrupted fault failed kept => cases failed.symm.trans result
  | done done reached =>
    cases done.symm.trans result
    exact reached

theorem orNotFound {a : Action α} {default : α} {post : α → Session σ → Prop}
    (loud : ∀ e ∈ faults, e.isNotFound = false)
    (h : R.Leads engine observers faults a s halfway post) :
    R.Leads engine observers faults (Action.orNotFound a default) s halfway post := by
  cases h with
  | interrupted fault result kept =>
    refine .interrupted fault ?_ kept
    rw [perform_orNotFound, result]
    simp [loud _ fault]
  | done result reached => exact .done (perform_orNotFound_ok result) reached

theorem execute (passive : ∀ o ∈ observers, o.IsPassive) {sql : String} {params : List Value}
    {good : List Row → σ → Prop}
    (answers : R.Answers faults s.engine good (engine.execute sql params s.engine))
    (start : halfway (R.contents s.engine) s.ledgerKnown) :
    R.Leads engine observers faults (Action.execute sql params none) s halfway
      fun rows t => good rows t.engine ∧ t.ledgerKnown = s.ledgerKnown := by
  obtain ⟨t, result, state, -, known⟩ := perform_execute_plain engine passive sql params s
  rcases answers.cases with ⟨e, fault, failed, same⟩ | ⟨rows, replied, told⟩
  next =>
    rw [failed] at result
    refine .interrupted fault result ?_
    rw [known, state, same]
    exact start
  next =>
    rw [replied] at result
    exact .done result ⟨state ▸ told, known⟩

theorem pure {a : α} {post : α → Session σ → Prop} (reached : post a s) :
    R.Leads engine observers faults (Pure.pure a) s halfway post :=
  .done rfl reached

theorem makes (passive : ∀ o ∈ observers, o.IsPassive) {sql : String} {made : Contents κ}
    (answers : R.Makes faults s.engine made (engine.execute sql [] s.engine))
    (start : halfway (R.contents s.engine) s.ledgerKnown) :
    R.Leads engine observers faults (Action.perform sql) s halfway
      fun _ t => R.contents t.engine = made ∧ t.ledgerKnown = s.ledgerKnown :=
  (execute passive answers start).bind fun _ _ made => pure made

theorem makes_change (passive : ∀ o ∈ observers, o.IsPassive) {change : SchemaChange}
    {sql : String} (text : change.statements = [sql]) {made : Contents κ}
    (answers : R.Makes faults s.engine made (engine.execute sql [] s.engine))
    (start : halfway (R.contents s.engine) s.ledgerKnown) :
    R.Leads engine observers faults change.apply s halfway
      fun _ t => R.contents t.engine = made ∧ t.ledgerKnown = s.ledgerKnown := by
  rw [SchemaChange.apply_eq_perform text]
  exact makes passive answers start

end Reading.Leads

theorem Action.expect_some_bind {α β : Type} (a : α) (fault : StateFault) (f : α → Action β) :
    (Action.expect (some a) fault >>= f) = f a := rfl

structure SchemaChange.Alters (change : SchemaChange) (report : String → ReportedType)
    (n : ObjectName) (step : Database.Table → ColumnClause → Except Database.Refusal Database.Table)
    (columns : List ColumnClause) (st : TableStatement) : Prop where
  text : change.statements = if columns.isEmpty then [] else [st.render]
  typed : st.IsTyped
  named : st.table = n
  runs : ∀ tables, Database.run report tables st = Database.alter tables n step columns

theorem SchemaChange.alters_addColumns (report : String → ReportedType) (n : ObjectName)
    (requested : List Attribute) (existing : List Column) :
    (addColumns n (ColumnDiff.between requested existing).add).Alters report n
      (Database.Table.add report) ((ColumnDiff.between requested existing).add.map Attribute.clause)
      (.add n ((ColumnDiff.between requested existing).add.map Attribute.clause)) where
  text := statements_addColumns n (ColumnDiff.stored_add requested existing)
  typed := .add n (List.forall_mem_map.2 fun a _ => a.isType_clause)
  named := rfl
  runs _ := rfl

theorem SchemaChange.alters_modifyColumns (report : String → ReportedType) (n : ObjectName)
    (columns : List Modification) :
    (modifyColumns n columns).Alters report n (Database.Table.modify report)
      (columns.map Modification.clause) (.modify n (columns.map Modification.clause)) where
  text := statements_modifyColumns n columns
  typed := .modify n (List.forall_mem_map.2 fun m _ => m.isType_clause)
  named := rfl
  runs _ := rfl

theorem Session.not_performed {σ : Type} {engine : Engine σ} {observers : List Observer}
    (passive : ∀ o ∈ observers, o.IsPassive) {sql : String} {s t : Session σ} {e : EngineError}
    (refused : (engine.execute sql [] s.engine).1 = .error e) :
    perform engine observers (Action.perform sql) s ≠ (.ok (), t) := by
  intro performed
  obtain ⟨u, executed, -⟩ := perform_execute_plain engine passive sql [] s
  rw [refused] at executed
  have failed := perform_bind_error (f := fun _ => (pure () : Action Unit)) executed
  cases failed.symm.trans performed

theorem SchemaChange.not_applied {σ : Type} {engine : Engine σ} {observers : List Observer}
    (passive : ∀ o ∈ observers, o.IsPassive) {change : SchemaChange} {sql : String}
    (text : change.statements = [sql]) {s u : Session σ} {e : EngineError}
    (refused : (engine.execute sql [] s.engine).1 = .error e) :
    perform engine observers change.apply s ≠ (.ok (), u) := by
  rw [SchemaChange.apply_eq_perform text]
  exact not_performed passive refused

structure Reading.Same {σ κ : Type} (R : Reading σ κ) (s t : Session σ) : Prop where
  contents : R.contents t.engine = R.contents s.engine
  known : t.ledgerKnown = s.ledgerKnown

theorem Reading.Same.tables {σ κ : Type} {R : Reading σ κ} {s t : Session σ} (same : R.Same s t)
    (n : ObjectName) : R.tables t.engine n = R.tables s.engine n := by
  rw [Reading.tables, same.contents, Reading.tables]

theorem Reading.Same.keeps {σ κ : Type} {R : Reading σ κ} {s t : Session σ} (same : R.Same s t)
    {halfway : Contents κ → Bool → Prop} (h : halfway (R.contents s.engine) s.ledgerKnown) :
    halfway (R.contents t.engine) t.ledgerKnown := by
  rw [same.contents, same.known]
  exact h

namespace Reading.Serves

variable {σ κ : Type} [DecidableEq κ] {R : Reading σ κ} {engine : Engine σ}
  {observers : List Observer} {options : Options} {r : Request} {faults : Set EngineError}
  {halfway : Contents κ → Bool → Prop} {s : Session σ} (serves : R.Serves engine options r faults)
  (passive : ∀ o ∈ observers, o.IsPassive) (loud : ∀ e ∈ faults, e.isNotFound = false)
  (start : halfway (R.contents s.engine) s.ledgerKnown)

include serves passive start

theorem leads_version (appliesTo : String) (there : (R.tables s.engine Ledger.name).isSome = true) :
    R.Leads engine observers faults (Ledger.version appliesTo) s halfway
      fun current t => R.Same s t ∧
        current = Version.latest (R.listed (R.contents s.engine).rows appliesTo) := by
  refine (Leads.execute passive (serves.versions appliesTo s.engine there) start).bind ?_
  rintro rows t ⟨⟨same, told⟩, known⟩
  rw [told]
  exact .pure ⟨⟨same, known⟩, rfl⟩

include loud

theorem leads_hasTable (n : ObjectName) :
    R.Leads engine observers faults (Catalog.has .table n) s halfway
      fun there t => R.Same s t ∧ there = (R.tables s.engine n).isSome := by
  refine Leads.orNotFound loud
    ((Leads.execute passive (serves.findsTable n s.engine) start).bind ?_)
  rintro rows t ⟨⟨same, count, counted, positive⟩, known⟩
  rw [counted, Action.expect_some_bind]
  exact .pure ⟨⟨same, known⟩, Bool.eq_iff_iff.2 (by rw [decide_eq_true_iff, positive])⟩

theorem leads_hasSequence (name : String) :
    R.Leads engine observers faults (Catalog.has .sequence ⟨none, name⟩) s halfway
      fun there t => R.Same s t ∧ there = (R.contents s.engine).sequences name := by
  refine Leads.orNotFound loud
    ((Leads.execute passive (serves.findsSequence name s.engine) start).bind ?_)
  rintro rows t ⟨⟨same, count, counted, positive⟩, known⟩
  rw [counted, Action.expect_some_bind]
  exact .pure ⟨⟨same, known⟩, Bool.eq_iff_iff.2 (by rw [decide_eq_true_iff, positive])⟩

theorem leads_columns {n : ObjectName} {t : Database.Table} (there : R.tables s.engine n = some t) :
    R.Leads engine observers faults (Catalog.columns n) s halfway
      fun columns u => R.Same s u ∧ columns = t.columns := by
  refine Leads.orNotFound loud
    ((Leads.execute passive (serves.columns n s.engine t there) start).bind ?_)
  rintro rows u ⟨⟨same, told⟩, known⟩
  rw [told]
  exact .pure ⟨⟨same, known⟩, rfl⟩

omit loud

theorem leads_createSequence {name : String}
    (absent : (R.contents s.engine).sequences name = false) :
    R.Leads engine observers faults (SchemaChange.createSequence name).apply s halfway
      fun _ t => R.contents t.engine = (R.contents s.engine).withSequence name ∧
        t.ledgerKnown = s.ledgerKnown :=
  .makes_change passive rfl (serves.makesSequence name s.engine absent) start

theorem leads_createTable {n : ObjectName} {requested : List Attribute} {t : Database.Table}
    (absent : R.tables s.engine n = none)
    (accepted : (Database.clauses (SchemaChange.tableItems n requested)).foldlM
      (Database.Table.add R.report) .empty = .ok t)
    (held : R.Holds (t.withKey (Database.keyColumns (SchemaChange.tableItems n requested)))) :
    R.Leads engine observers faults (SchemaChange.createTable n requested).apply s halfway
      fun _ u => R.contents u.engine = (R.contents s.engine).withTable (R.place n)
          (some (t.withKey (Database.keyColumns (SchemaChange.tableItems n requested)))) ∧
        u.ledgerKnown = s.ledgerKnown := by
  have made := serves.changes _ s.engine _ _ (ColumnDiff.isTyped_tableItems n requested)
    (Database.run_create absent accepted) (Function.update_self ..) held
  refine .makes_change passive ?_ made start
  rw [SchemaChange.statements, SchemaChange.tableText_eq]

-- Without columns there is no statement, and no change.
theorem leads_alter {n : ObjectName} {st : TableStatement} {change : SchemaChange}
    {step : Database.Table → ColumnClause → Except Database.Refusal Database.Table}
    {columns : List ColumnClause} {t t' : Database.Table}
    (alters : change.Alters R.report n step columns st)
    (there : R.tables s.engine n = some t) (accepted : columns.foldlM step t = .ok t')
    (held : R.Holds t') :
    R.Leads engine observers faults change.apply s halfway
      fun _ u => R.contents u.engine = (R.contents s.engine).withTable (R.place n) (some t') ∧
        u.ledgerKnown = s.ledgerKnown := by
  cases columns with
  | nil =>
    cases accepted
    rw [SchemaChange.apply, alters.text]
    exact .pure ⟨(Contents.withTable_self there).symm, rfl⟩
  | cons column rest =>
    have runs := (alters.runs _).trans (Database.alter_eq there accepted)
    have made := serves.changes st s.engine _ t' alters.typed runs
      (by rw [alters.named, Function.update_self]) held
    rw [alters.named] at made
    exact .makes_change passive alters.text made start

omit start

theorem held_of_createTable {n : ObjectName} {requested : List Attribute} {t : Database.Table}
    {u : Session σ} (absent : R.tables s.engine n = none)
    (accepted : (Database.clauses (SchemaChange.tableItems n requested)).foldlM
      (Database.Table.add R.report) .empty = .ok t)
    (applied : perform engine observers (SchemaChange.createTable n requested).apply s =
      (.ok (), u)) :
    R.Holds (t.withKey (Database.keyColumns (SchemaChange.tableItems n requested))) := by
  by_contra apart
  obtain ⟨e, refused⟩ := serves.refuses _ s.engine _ _ (ColumnDiff.isTyped_tableItems n requested)
    (Database.run_create absent accepted) (Function.update_self ..) apart
  refine SchemaChange.not_applied passive ?_ refused applied
  rw [SchemaChange.statements, SchemaChange.tableText_eq]

theorem held_of_alter {n : ObjectName} {st : TableStatement} {change : SchemaChange}
    {step : Database.Table → ColumnClause → Except Database.Refusal Database.Table}
    {columns : List ColumnClause} {t t' : Database.Table} {u : Session σ}
    (alters : change.Alters R.report n step columns st)
    (there : R.tables s.engine n = some t) (accepted : columns.foldlM step t = .ok t')
    (applied : perform engine observers change.apply s = (.ok (), u)) : R.Holds t' := by
  cases columns with
  | nil =>
    cases accepted
    exact ⟨s.engine, R.place n, there⟩
  | cons column rest =>
    have runs := (alters.runs _).trans (Database.alter_eq there accepted)
    by_contra apart
    obtain ⟨e, refused⟩ := serves.refuses st s.engine _ t' alters.typed runs
      (by rw [alters.named, Function.update_self]) apart
    exact SchemaChange.not_applied passive alters.text refused applied

end Reading.Serves

end OracleSql
