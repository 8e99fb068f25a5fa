import OracleSql.Proofs.Database.Listing
import OracleSql.Proofs.Migration.Ledger
import OracleSql.Proofs.Schema.Names
import Mathlib.Data.List.Perm.Subperm

set_option autoImplicit false

namespace OracleSql

open Session Sql

def isDefinition (sql : String) : Bool :=
  ["CREATE ", "ALTER ", "DROP "].any fun word => Text.startsWith word sql

theorem isDefinition_select {sql : String} (h : Text.startsWith "SELECT " sql = true) :
    isDefinition sql = false := by
  have create : Text.startsWith "CREATE " sql = false := startsWith_other h rfl rfl
  have alter : Text.startsWith "ALTER " sql = false := startsWith_other h rfl rfl
  have drop : Text.startsWith "DROP " sql = false := startsWith_other h rfl rfl
  simp [isDefinition, create, alter, drop]

namespace Index

def dropText (name : String) : String :=
  "DROP INDEX " ++ Name.quote name

def createText (name : String) (table : ObjectName) (columns : List String) : String :=
  "CREATE INDEX " ++ Name.quote name ++ " ON " ++ table.render ++ "(" ++
    ",".intercalate (columns.map Name.quote) ++ ")"

theorem startsWith_dropText (name : String) : Text.startsWith "DROP " (dropText name) = true :=
  startsWith_append (startsWith_literal rfl) _

theorem startsWith_createText (name : String) (table : ObjectName) (columns : List String) :
    Text.startsWith "CREATE " (createText name table columns) = true := by
  unfold createText
  iterate 6 refine startsWith_append ?_ _
  exact startsWith_literal rfl

theorem startsWith_indexesText : Text.startsWith "SELECT " Catalog.indexesText = true := by
  unfold Catalog.indexesText
  iterate 6 refine startsWith_append ?_ _
  exact startsWith_literal rfl

theorem startsWith_indexColumnsText :
    Text.startsWith "SELECT " Catalog.indexColumnsText = true := by
  unfold Catalog.indexColumnsText
  iterate 5 refine startsWith_append ?_ _
  exact startsWith_literal rfl

theorem quotes_createText (name : String) (table : ObjectName) (columns : List String) :
    ∃ ts, scan (createText name table columns).toList = some ts ∧
      quotes ts = identifiers (name :: (table.names ++ columns)) :=
  ⟨_, scan_eq_some_iff.2 (SchemaChange.written_indexText name table columns),
    SchemaChange.quotes_of_mem_tokens (c := .createIndex name table columns)
      (List.mem_singleton_self _)⟩

-- Among different columns it is enough to compare how many there are, and to look for each.
theorem covers_iff_perm {index : Index} {columns : List String} (distinct : columns.Nodup) :
    index.covers columns = true ↔ index.columns.Perm columns := by
  simp only [covers, Bool.and_eq_true, beq_iff_eq, List.all_eq_true, List.contains_iff_mem]
  constructor
  next =>
    rintro ⟨lengths, all⟩
    exact ((distinct.subperm all).perm_of_length_le lengths.le).symm
  next =>
    intro same
    exact ⟨same.length_eq, fun column member => same.mem_iff.2 member⟩

theorem find?_name_eq_some_iff {listed : List Index} (once : (listed.map name).Nodup)
    {wanted : String} {index : Index} :
    (listed.find? fun index => index.name == wanted) = some index ↔
      index ∈ listed ∧ index.name = wanted := by
  constructor
  next =>
    intro found
    exact ⟨List.mem_of_find?_eq_some found, by simpa using List.find?_some found⟩
  next =>
    rintro ⟨member, rfl⟩
    cases found : listed.find? fun other => other.name == index.name with
    | none => simpa using List.find?_eq_none.1 found index member
    | some other =>
      have same : other.name = index.name := by simpa using List.find?_some found
      rw [List.inj_on_of_nodup_map once (List.mem_of_find?_eq_some found) member same]

def settle (name : String) (table : ObjectName) (columns : List String) :
    Option Index → Action Unit
  | none => (SchemaChange.createIndex name table columns).apply
  | some index =>
      if index.covers columns then pure ()
      else do
        (SchemaChange.dropIndex name).apply
        (SchemaChange.createIndex name table columns).apply

theorem create_eq (options : Options) (t : Table) (name : String) {columns : List String}
    (some : columns ≠ []) :
    create options t name columns = t.indexes options >>= fun listed =>
      settle name t.name columns (listed.find? fun index => index.name == name) := by
  rw [create, if_neg (mt List.isEmpty_iff.1 some)]
  refine congrArg _ (funext fun listed => ?_)
  cases listed.find? fun index => index.name == name <;> rfl

/-- How it ends after the statements that it executes. -/
inductive Settled (name : String) (table : ObjectName) (columns : List String) :
    Option Index → List Exchange → Except Failure Unit → Prop where
  | kept {index : Index} (covers : index.covers columns = true) :
      Settled name table columns (some index) [] (.ok ())
  | created (reply : Except EngineError (List Row)) :
      Settled name table columns none [⟨createText name table columns, [], reply⟩]
        (Action.engineResult (reply.map fun _ => ()))
  | refused {index : Index} (other : ¬index.covers columns = true) (e : EngineError) :
      Settled name table columns (some index) [⟨dropText name, [], .error e⟩] (.error (.engine e))
  | replaced {index : Index} (other : ¬index.covers columns = true) (rows : List Row)
      (reply : Except EngineError (List Row)) :
      Settled name table columns (some index)
        [⟨dropText name, [], .ok rows⟩, ⟨createText name table columns, [], reply⟩]
        (Action.engineResult (reply.map fun _ => ()))

section Settling

variable {σ : Type} (engine : Engine σ) (observers : List Observer) (s : Session σ)

theorem settled (name : String) (table : ObjectName) (columns : List String)
    (found : Option Index) :
    Settled name table columns found
      (exchanges engine observers (settle name table columns found) s)
      (Session.perform engine observers (settle name table columns found) s).1 := by
  have creation : (SchemaChange.createIndex name table columns).apply =
      Action.perform (createText name table columns) := SchemaChange.apply_eq_perform rfl
  have removal : (SchemaChange.dropIndex name).apply = Action.perform (dropText name) :=
    SchemaChange.apply_eq_perform rfl
  cases found with
  | none =>
    obtain ⟨reply, t, done, sent⟩ := exists_reply_perform engine observers
      (createText name table columns) s
    rw [settle, creation, done, sent]
    exact .created reply
  | some index =>
    by_cases covers : index.covers columns = true
    next =>
      rw [settle, if_pos covers]
      exact .kept covers
    next =>
      rw [settle, if_neg covers, creation, removal]
      obtain ⟨reply, t, dropped, sent⟩ := exists_reply_perform engine observers (dropText name) s
      cases reply with
      | error e =>
        rw [perform_bind_error dropped, exchanges_bind_error dropped, sent]
        exact .refused covers e
      | ok rows =>
        obtain ⟨reply, u, done, sent'⟩ := exists_reply_perform engine observers
          (createText name table columns) t
        rw [perform_bind_ok dropped, exchanges_bind_ok dropped, sent, done, sent']
        exact .replaced covers rows reply

end Settling

/-- What is executed to put the index over the columns in the place of one that may be listed. -/
structure Replaces (name : String) (table : ObjectName) (columns : List String) (isListed : Prop)
    (sent : List Exchange) : Prop where
  ordered : (sent.map Exchange.statement).Sublist
    [(dropText name, []), (createText name table columns, [])]
  drops : (∃ e ∈ sent, e.sql = dropText name) ↔ isListed
  creates : (∃ e ∈ sent, e.sql = createText name table columns) ↔
    ¬isListed ∨ ∃ e ∈ sent, e.sql = dropText name ∧ e.succeeds = true

theorem createText_ne_dropText (name : String) (table : ObjectName) (columns : List String) :
    createText name table columns ≠ dropText name :=
  ne_of_startsWith (startsWith_createText name table columns)
    (startsWith_other (startsWith_dropText name) rfl rfl)

namespace Settled

variable {name : String} {table : ObjectName} {columns : List String} {found : Option Index}
  {sent : List Exchange} {out : Except Failure Unit}

theorem eq_nil_iff (h : Settled name table columns found sent out) :
    sent = [] ↔ ∃ index, found = some index ∧ index.covers columns = true := by
  cases h with
  | kept covers => simp [covers]
  | created reply => simp
  | refused other e => simp [other]
  | replaced other rows reply => simp [other]

theorem replaces (h : Settled name table columns found sent out) (some : sent ≠ []) :
    Replaces name table columns (found.isSome = true) sent := by
  have other := createText_ne_dropText name table columns
  cases h with
  | kept => exact absurd rfl some
  | created reply =>
    refine ⟨?_, ?_, ?_⟩
    next => simp [Exchange.statement]
    next => simp [other]
    next => simp
  | refused _ e =>
    refine ⟨?_, ?_, ?_⟩
    next => simp [Exchange.statement]
    next => simp
    next => simp [other.symm, Exchange.succeeds]
  | replaced _ rows reply =>
    refine ⟨?_, ?_, ?_⟩
    next => simp [Exchange.statement]
    next => simp
    next => simp [Exchange.succeeds]

theorem ok_iff (h : Settled name table columns found sent out) :
    out = .ok () ↔ ∀ e ∈ sent, e.succeeds = true := by
  have ended (reply : Except EngineError (List Row)) (sql : String) :
      Action.engineResult (reply.map fun _ => ()) = .ok () ↔
        Exchange.succeeds ⟨sql, [], reply⟩ = true := by
    cases reply <;> simp [Action.engineResult, Except.map, Exchange.succeeds]
  cases h with
  | kept => simp
  | created reply => simpa using ended reply _
  | refused => simp [Exchange.succeeds]
  | replaced _ rows reply =>
    rw [List.forall_mem_cons, List.forall_mem_singleton]
    exact (ended reply _).trans (and_iff_right rfl).symm

theorem isDefinition (h : Settled name table columns found sent out) :
    ∀ e ∈ sent, isDefinition e.sql = true := by
  have creation : OracleSql.isDefinition (createText name table columns) = true := by
    simp [OracleSql.isDefinition, startsWith_createText]
  have removal : OracleSql.isDefinition (dropText name) = true := by
    simp [OracleSql.isDefinition, startsWith_dropText]
  cases h with
  | kept => exact List.forall_mem_nil _
  | created => exact List.forall_mem_singleton.2 creation
  | refused => exact List.forall_mem_singleton.2 removal
  | replaced =>
    exact List.forall_mem_cons.2 ⟨removal, List.forall_mem_singleton.2 creation⟩

end Settled

def definitions {σ : Type} (engine : Engine σ) (observers : List Observer) (options : Options)
    (t : Table) (name : String) (columns : List String) (s : Session σ) : List Exchange :=
  (exchanges engine observers (create options t name columns) s).filter fun e => isDefinition e.sql

def DefinesNothing : Step → Prop
  | .execute sql _ _ => isDefinition sql = false
  | _ => False

theorem asks_indexes (options : Options) (t : Table) : (t.indexes options).Asks DefinesNothing :=
  .bind (.orNotFound (.execute (isDefinition_select startsWith_indexesText))) fun _ =>
    .ite (.pure _) (.bind (.execute (isDefinition_select startsWith_indexColumnsText)) fun _ =>
      .pure _)

-- The listing defines nothing, so the definitions are what is executed after it.
theorem exchanges_create {σ : Type} {engine : Engine σ} {observers : List Observer}
    {options : Options} {t : Table} (name : String) {columns : List String} {s u : Session σ}
    {listed : List Index} (some : columns ≠ [])
    (lists : Session.perform engine observers (t.indexes options) s = (.ok listed, u)) :
    exchanges engine observers (create options t name columns) s =
        exchanges engine observers (t.indexes options) s ++
          definitions engine observers options t name columns s ∧
      definitions engine observers options t name columns s =
        exchanges engine observers (settle name t.name columns
          (listed.find? fun index => index.name == name)) u := by
  have none : (exchanges engine observers (t.indexes options) s).filter
      (fun e => isDefinition e.sql) = [] := by
    refine List.filter_eq_nil_iff.2 fun e member definition => ?_
    have query : isDefinition e.sql = false :=
      sql_of_mem_exchanges (asks_indexes options t) (fun _ _ _ only => only) member
    exact Bool.false_ne_true (query.symm.trans definition)
  have sent := settled engine observers u name t.name columns
    (listed.find? fun index => index.name == name)
  rw [definitions, create_eq options t name some, exchanges_bind_ok lists, List.filter_append,
    List.filter_eq_self.2 sent.isDefinition, none]
  exact ⟨rfl, rfl⟩

/-- An index of the name over the same columns, in whatever order, is left as it is. Otherwise it is
dropped if there is one, and the new index is created unless the drop fails. -/
theorem defines_unless_covered {σ : Type} (engine : Engine σ) (observers : List Observer)
    (options : Options) (t : Table) (name : String) {columns : List String} {s u : Session σ}
    {listed : List Index} (some : columns ≠ []) (distinct : columns.Nodup)
    (lists : Session.perform engine observers (t.indexes options) s = (.ok listed, u))
    (once : (listed.map Index.name).Nodup) :
    exchanges engine observers (create options t name columns) s =
        exchanges engine observers (t.indexes options) s ++
          definitions engine observers options t name columns s ∧
      (definitions engine observers options t name columns s = [] ↔
        ∃ index ∈ listed, index.name = name ∧ index.columns.Perm columns) ∧
      ((¬∃ index ∈ listed, index.name = name ∧ index.columns.Perm columns) →
        Replaces name t.name columns (name ∈ listed.map Index.name)
          (definitions engine observers options t name columns s)) ∧
      ((Session.perform engine observers (create options t name columns) s).1 = .ok () ↔
        ∀ e ∈ definitions engine observers options t name columns s, e.succeeds = true) ∧
      ∃ ts, scan (createText name t.name columns).toList = Option.some ts ∧
        quotes ts = identifiers (name :: (t.name.names ++ columns)) := by
  obtain ⟨sent, defined⟩ := exchanges_create name some lists
  have ends : Session.perform engine observers (create options t name columns) s =
      Session.perform engine observers (settle name t.name columns
        (listed.find? fun index => index.name == name)) u := by
    rw [create_eq options t name some, perform_bind_ok lists]
  have outcome := settled engine observers u name t.name columns
    (listed.find? fun index => index.name == name)
  rw [← defined, ← ends] at outcome
  have covered : (∃ index, (listed.find? fun index => index.name == name) = Option.some index ∧
      index.covers columns = true) ↔
      ∃ index ∈ listed, index.name = name ∧ index.columns.Perm columns := by
    simp only [find?_name_eq_some_iff once, covers_iff_perm distinct, and_assoc]
  have isListed : (listed.find? fun index => index.name == name).isSome = true ↔
      name ∈ listed.map Index.name := by
    simp
  refine ⟨sent, outcome.eq_nil_iff.trans covered, fun other => ?_, outcome.ok_iff,
    quotes_createText name t.name columns⟩
  have some : definitions engine observers options t name columns s ≠ [] :=
    fun none => other (covered.1 (outcome.eq_nil_iff.1 none))
  have replaces := outcome.replaces some
  rwa [isListed] at replaces

end Index

def listingScript : Script :=
  ⟨[.ok [indexRow "I" none], .ok [indexColumnRow "I" "a", indexColumnRow "I" "b"]], fun _ => none⟩

theorem Index.defines_unless_covered_others :
    ["b", "c"] ≠ [] ∧ ["b", "c"].Nodup ∧
      (Session.perform Script.engine [] (Table.indexes .empty ⟨"T", ⟨none, "T"⟩⟩)
        (start listingScript)).1 = .ok [⟨"I", ["a", "b"]⟩] ∧
      Replaces "I" ⟨none, "T"⟩ ["b", "c"] ("I" ∈ ["I"])
        (definitions Script.engine [] .empty ⟨"T", ⟨none, "T"⟩⟩ "I" ["b", "c"]
          (start listingScript)) ∧
      (Session.perform Script.engine [] (create .empty ⟨"T", ⟨none, "T"⟩⟩ "I" ["b", "c"])
        (start listingScript)).1 = .ok () := by
  have listed : (Session.perform Script.engine [] (Table.indexes .empty ⟨"T", ⟨none, "T"⟩⟩)
      (start listingScript)).1 = .ok [⟨"I", ["a", "b"]⟩] := by
    decide +kernel
  have some : ["b", "c"] ≠ [] := by decide
  have distinct : ["b", "c"].Nodup := by decide
  obtain ⟨-, -, replaces, -, -⟩ := Index.defines_unless_covered Script.engine [] .empty
    ⟨"T", ⟨none, "T"⟩⟩ "I" some distinct (Prod.ext listed rfl) (by decide)
  exact ⟨some, distinct, listed, replaces (by decide), by decide +kernel⟩

end OracleSql
