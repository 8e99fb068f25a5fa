import OracleSql.Index
import OracleSql.Proofs.Migration.Ledger
import OracleSql.Proofs.Session.Transaction
import OracleSql.View

set_option autoImplicit false

namespace OracleSql

/-- Tables, views and indexes are given by the names that are asked for. -/
inductive Operation : Type → Type where
  | execute (sql : String) (params : List Value) : Operation (List Row)
  | executeStatement (statement : Statement) (offset : Int) : Operation (List Row)
  | applySession (offset : Int) : Operation Unit
  | hasTable (table : String) : Operation Bool
  | hasSequence (table : String) : Operation Bool
  | version (table : String) : Operation String
  | listColumns (table : String) : Operation (List Column)
  | createTable (table : String) (attributes : List Attribute) : Operation Unit
  | addColumns (table : String) (attributes : List Attribute) : Operation Unit
  | changeColumns (table : String) (attributes : List Attribute) : Operation Unit
  | dropTable (table : String) : Operation Unit
  | listIndexes (table : String) : Operation (List Index)
  | createIndex (table name : String) (columns : List String) : Operation Unit
  | dropIndex (table name : String) : Operation Unit
  | hasView (view : String) : Operation Bool
  | createView (view : String) (query : Query) (offset : Int) : Operation Unit
  | dropView (view : String) : Operation Unit
  | listTables : Operation (List ObjectName)
  | listViews : Operation (List ObjectName)
  | migrate (request : Request) : Operation Outcome
  | listEntries : Operation (List LedgerEntry)
  | nextIdentity (entity column : String) : Operation Int
  | resetIdentity (entity column : String) : Operation Int

namespace Operation

def action (options : Options) {α : Type} : Operation α → Action α
  | .execute sql params => Action.execute sql params none
  | .executeStatement statement offset => statement.execute (options.settings offset)
  | .applySession offset => options.applySession offset
  | .hasTable table => (Table.named options table).isThere
  | .hasSequence table => (Table.named options table).hasSequence
  | .version table => (Table.named options table).version
  | .listColumns table => (Table.named options table).columns
  | .createTable table attributes => (Table.named options table).create attributes
  | .addColumns table attributes => (Table.named options table).add attributes
  | .changeColumns table attributes => (Table.named options table).change attributes
  | .dropTable table => (Table.named options table).drop
  | .listIndexes table => (Table.named options table).indexes options
  | .createIndex table name columns => Index.create options (Table.named options table) name columns
  | .dropIndex table name => Index.drop options (Table.named options table) name
  | .hasView view => View.isThere (ObjectName.resolve view options.schema)
  | .createView view query offset =>
      View.create (options.settings offset) (ObjectName.resolve view options.schema) query
  | .dropView view => View.drop (ObjectName.resolve view options.schema)
  | .listTables => Catalog.tables options
  | .listViews => Catalog.views options
  | .migrate request => request.migrate options
  | .listEntries => Ledger.entries
  | .nextIdentity entity column => Identity.next options entity column
  | .resetIdentity entity column => Identity.reset options entity column

def createsView {α : Type} : Operation α → Bool
  | .createView _ _ _ => true
  | _ => false

end Operation

/-- Operations one after the other, where each may depend on the results before it. A failure is
passed on unless it is looked at as a value. -/
inductive Routine : Type → Type 1 where
  | done {α : Type} (result : Except Failure α) : Routine α
  | operation {α : Type} (op : Operation α) : Routine α
  | andThen {α β : Type} (first : Routine α) (next : α → Routine β) : Routine β
  | attempt {α : Type} (inner : Routine α) : Routine (Except Failure α)
  | nested {α : Type} (inner : Routine α) : Routine α

namespace Routine

def action (options : Options) {α : Type} : Routine α → Action α
  | .done result => ExceptT.mk (pure result)
  | .operation op => op.action options
  | .andThen first next => first.action options >>= fun a => (next a).action options
  | .attempt inner => (inner.action options).attempt
  | .nested inner => transaction (inner.action options)

def CreatesNoView {α : Type} : Routine α → Prop
  | .done _ => True
  | .operation op => op.createsView = false
  | .andThen first next => first.CreatesNoView ∧ ∀ a, (next a).CreatesNoView
  | .attempt inner => inner.CreatesNoView
  | .nested inner => inner.CreatesNoView

end Routine

theorem Program.Asks.mono {α : Type} {allowed wider : Step → Prop} {p : Program α}
    (h : p.Asks allowed) (weaker : ∀ step, allowed step → wider step) : p.Asks wider := by
  induction p with
  | done a => trivial
  | ask step next ih => exact ⟨weaker step h.1, fun answer => ih answer (h.2 answer)⟩

def IsBare : Step → Prop
  | .execute _ _ statement => statement = none
  | .ledgerKnown | .rememberLedger => True
  | .hook _ | .enterTransaction | .leaveTransaction => False

theorem IsPreparing.isBare {step : Step} (h : IsPreparing step) : IsBare step := by
  cases step with
  | execute => exact h.2
  | ledgerKnown | rememberLedger => trivial
  | hook | enterTransaction | leaveTransaction => exact h

theorem IsBare.isQuiet {step : Step} (h : IsBare step) : IsQuiet step := by
  cases step with
  | execute | ledgerKnown | rememberLedger => trivial
  | hook | enterTransaction | leaveTransaction => exact h

namespace Action.Asks

variable {α : Type} {allowed : Step → Prop}

theorem bare {a : Action α} (h : a.Asks IsPreparing) : Asks IsBare a :=
  Program.Asks.mono h fun _ => IsPreparing.isBare

theorem quiet {a : Action α} (h : a.Asks IsBare) : Asks IsQuiet a :=
  Program.Asks.mono h fun _ => IsBare.isQuiet

theorem ofChecked (result : Checked α) : Asks allowed (Action.ofChecked result) := by
  cases result <;> trivial

theorem bare_execute (sql : String) (params : List Value) :
    Asks IsBare (Action.execute sql params none) :=
  execute rfl

theorem bare_apply (c : SchemaChange) : Asks IsBare c.apply :=
  forM fun _ _ => perform rfl

theorem bare_has (kind : ObjectKind) (n : ObjectName) : Asks IsBare (Catalog.has kind n) :=
  (has kind n).bare

theorem bare_version (appliesTo : String) : Asks IsBare (Ledger.version appliesTo) :=
  (version appliesTo).bare

theorem bare_append (options : Options) (entry : Int → LedgerEntry) :
    Asks IsBare (Ledger.append options entry) :=
  bind (next options _ _).bare fun _ => bind (bare_execute _ _) fun _ => pure _

theorem bare_migrate (options : Options) (r : Request) : Asks IsBare (r.migrate options) := by
  unfold Request.migrate
  split
  next => exact throw _
  next =>
    refine bind ensureLedger.bare fun _ => bind (bare_version _) fun current => ite (pure _) ?_
    refine bind (bare_has _ _) fun there => ite ?_ ?_
    next => exact bind (alter r _).bare fun _ => bind (bare_append _ _) fun _ => pure _
    next => exact bind (create _ _).bare fun _ => bind (bare_append _ _) fun _ => pure _

theorem bare_indexes (options : Options) (t : Table) : Asks IsBare (t.indexes options) :=
  bind (orNotFound (bare_execute _ _)) fun _ =>
    ite (pure _) (bind (bare_execute _ _) fun _ => pure _)

theorem bare_createIndex (options : Options) (t : Table) (name : String) (columns : List String) :
    Asks IsBare (Index.create options t name columns) := by
  refine ite (throw _) (bind (bare_indexes options t) fun present => ?_)
  cases present.find? fun index => index.name == name with
  | none => exact bare_apply _
  | some index => exact ite (pure _) (bind (bare_apply _) fun _ => bare_apply _)

theorem bare_owned (options : Options) (column allOf ofUser : String) :
    Asks IsBare (Catalog.owned options column allOf ofUser) := by
  unfold Catalog.owned
  cases options.schema with
  | none => exact bind (bare_execute _ _) fun _ => pure _
  | some owner => exact bind (bare_execute _ _) fun _ => pure _

theorem bare_ensureSequence (options : Options) (sequence : String) :
    Asks IsBare (Identity.ensure options sequence) :=
  bind (bare_has _ _) fun _ => ite (pure _) (bare_apply _)

theorem bare_reset (options : Options) (entity column : String) :
    Asks IsBare (Identity.reset options entity column) :=
  bind (bare_ensureSequence options _) fun _ => bind (bare_execute _ _) fun _ =>
    bind (bare_apply _) fun _ => pure _

theorem bare_drop (kind : ObjectKind) (n : ObjectName) (c : SchemaChange) :
    Asks IsBare (Catalog.has kind n >>= fun there => if there then c.apply else Pure.pure ()) :=
  bind (bare_has kind n) fun _ => ite (bare_apply c) (pure _)

end Action.Asks

open OracleSql.Action

theorem View.asks_replace (view : ObjectName) (select : String) :
    (View.replace view select).Asks IsBare :=
  .bind (.bare_drop .view view _) fun _ => .bare_apply _

namespace Operation

def tree {α : Type} : Operation α → Option Statement
  | .executeStatement statement _ => some statement
  | _ => none

theorem asks_bare (options : Options) {α : Type} {op : Operation α}
    (other : op.createsView = false) (treeless : op.tree = none) :
    (op.action options).Asks IsBare := by
  cases op with
  | execute sql params => exact .bare_execute _ _
  | executeStatement statement offset => cases treeless
  | applySession offset => exact .forM fun _ _ => .perform rfl
  | hasTable | hasSequence | hasView => exact .bare_has _ _
  | version table => exact .orNotFound (.bare_version _)
  | listColumns table => exact (Asks.columns _).bare
  | createTable table attributes => exact (Asks.create _ _).bare
  | addColumns table attributes => exact .bare_apply _
  | changeColumns table attributes =>
    exact .ite (.pure _) (.bind (Asks.columns _).bare fun _ => .bare_apply _)
  | dropTable table => exact .bare_drop .table _ _
  | listIndexes table => exact .bare_indexes _ _
  | createIndex table name columns => exact .bare_createIndex _ _ _ _
  | dropIndex table name =>
    exact .bind (.bare_indexes _ _) fun _ => .ite (.bare_apply _) (.pure _)
  | createView view query offset => cases other
  | dropView view => exact .bare_drop .view _ _
  | listTables | listViews => exact .bare_owned _ _ _ _
  | migrate request =>
    -- Elaborated against the goal, the term would have the checks of the request evaluated.
    have asks := Asks.bare_migrate options request
    assumption
  | listEntries => exact .bind (.bare_execute _ _) fun _ => .expect _ _
  | nextIdentity entity column => exact (Asks.next _ _ _).bare
  | resetIdentity entity column => exact .bare_reset _ _ _

theorem asks_action (options : Options) {α : Type} {op : Operation α}
    (other : op.createsView = false) : (op.action options).Asks IsQuiet := by
  cases treeless : op.tree with
  | none => exact (asks_bare options other treeless).quiet
  | some statement =>
    cases op with
    | executeStatement statement offset => exact .bind (.ofChecked _) fun _ => .execute trivial
    | _ => cases treeless

end Operation

end OracleSql
