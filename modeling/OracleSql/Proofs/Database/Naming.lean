import OracleSql.CommandLine.Run
import OracleSql.Proofs.Database.Separation
import OracleSql.Proofs.Migration.Spelling
import OracleSql.Proofs.Session.Transcript

set_option autoImplicit false

namespace OracleSql

open Session

namespace Session

variable {σ α β : Type} {engine : Engine σ} {observers : List Observer}

/-- Numbers are drawn from this sequence only, and one is drawn if the action succeeds. -/
structure DrawsFrom (engine : Engine σ) (observers : List Observer) (action : Action α)
    (s : Session σ) (sequence : String) : Prop where
  only : ∀ e ∈ exchanges engine observers action s, ∀ n column,
    SequenceStatement.read? e.sql = some (.draw n column) → n = ⟨none, sequence⟩
  some : ∀ a, (perform engine observers action s).1 = .ok a →
    ∃ e ∈ exchanges engine observers action s, ∃ column,
      SequenceStatement.read? e.sql = some (.draw ⟨none, sequence⟩ column)

theorem DrawsFrom.bind {action : Action α} {next : α → Action β} {s : Session σ}
    {sequence : String} (h : DrawsFrom engine observers action s sequence)
    (silent : ∀ a t, ∀ e ∈ exchanges engine observers (next a) t,
      SequenceStatement.read? e.sql = none) :
    DrawsFrom engine observers (action >>= next) s sequence := by
  rcases performed : perform engine observers action s with ⟨failure | a, t⟩
  next =>
    refine ⟨?_, ?_⟩
    next => rw [exchanges_bind_error performed]; exact h.only
    next =>
      intro b succeeds
      rw [perform_bind_error performed] at succeeds
      cases succeeds
  next =>
    have first := h.some a (congrArg Prod.fst performed)
    refine ⟨?_, ?_⟩
    all_goals rw [exchanges_bind_ok performed]
    next =>
      intro e member n column read
      rcases List.mem_append.1 member with before | after
      next => exact h.only e before n column read
      next =>
        rw [silent a t e after] at read
        cases read
    next =>
      obtain ⟨e, member, draws⟩ := first
      exact fun _ _ => ⟨e, List.mem_append_left _ member, draws⟩

end Session

theorem SequenceStatement.read?_other {sql : String}
    (query : Text.startsWith "SELECT " sql = false)
    (create : Text.startsWith "CREATE SEQUENCE " sql = false)
    (alter : Text.startsWith "ALTER SEQUENCE " sql = false) : read? sql = none := by
  unfold read?
  split
  next => rfl
  next =>
    rw [tokensAfter?_other query, tokensAfter?_other create, tokensAfter?_other alter]
    rfl

section Drawing

variable {σ : Type} (engine : Engine σ) (observers : List Observer) (options : Options)

theorem Identity.drawsFrom_next (entity column : String) (s : Session σ) :
    DrawsFrom engine observers (next options entity column) s
      (sequence options entity column) := by
  have touches : (next options entity column).Asks (IsTouching (sequence options entity column)) :=
    (IdentityCall.mk entity column false).asks_touching options
  refine ⟨?_, ?_⟩
  next =>
    intro e member n column read
    exact sql_of_mem_exchanges touches (fun _ _ _ only => only) member _ read
  next =>
    intro value succeeds
    obtain ⟨t, performed⟩ := exists_perform_eq succeeds
    obtain ⟨_, u, ensured, performed⟩ := exists_of_perform_bind performed
    obtain ⟨rows, v, drawn, -⟩ := exists_of_perform_bind performed
    obtain ⟨reply, w, -, sent⟩ := exists_reply engine observers
      (nextText (sequence options entity column)) [] none u
    refine ⟨⟨nextText (sequence options entity column), [], reply⟩, ?_, _, read?_nextText _⟩
    rw [next, exchanges_bind_ok ensured, exchanges_bind_ok drawn, sent]
    exact List.mem_append_right _ (List.mem_append_left _ (List.mem_singleton_self _))

theorem Ledger.drawsFrom_append (entry : Int → LedgerEntry) (s : Session σ) :
    DrawsFrom engine observers (append options entry) s
      (Identity.sequence options tableName idName) := by
  have insert : SequenceStatement.read? insertText = none :=
    SequenceStatement.read?_other (startsWith_other startsWith_insertText rfl rfl)
      (startsWith_other startsWith_insertText rfl rfl)
      (startsWith_other startsWith_insertText rfl rfl)
  refine (Identity.drawsFrom_next engine observers options tableName idName s).bind ?_
  intro id t e member
  have only : Action.Asks (fun step => ∀ sql params tree, step = .execute sql params tree →
      SequenceStatement.read? sql = none)
      (Action.execute insertText (entry id).params none >>= fun _ => pure (entry id)) := by
    refine .bind (.execute ?_) fun _ => .pure _
    rintro _ _ _ same
    cases same
    exact insert
  exact sql_of_mem_exchanges only (fun sql params tree none => none sql params tree rfl) member

end Drawing

def Ledger.idColumn : SequencedColumn :=
  ⟨tableName, idName⟩

theorem Ledger.sequence_idColumn_iff {limit : Nat} (room : 4 < limit) :
    idColumn.sequence limit = "migrations_id_seq" ↔ 17 ≤ limit := by
  constructor
  next =>
    intro same
    have bound := length_sequenceName_le tableName idName limit (Nat.le_of_lt room)
    rw [show sequenceName tableName idName limit = "migrations_id_seq" from same] at bound
    exact bound
  next =>
    intro enough
    have fits : idColumn.Fits limit := Nat.le_trans (by decide) enough
    rw [SequencedColumn.sequence_of_fits fits]
    decide +kernel

theorem Ledger.read?_createSequenceText :
    SequenceStatement.read? createSequenceText = some (.create ⟨none, "migrations_id_seq"⟩) :=
  createSequenceText_eq ▸ Identity.read?_createText "migrations_id_seq"

namespace CommandLine

-- The column as its sequence is announced, by the table that the name stands for.
def announced (options : Options) (r : Request) (a : Attribute) : SequencedColumn :=
  ⟨(ObjectName.resolve r.appliesTo options.schema).name, a.name⟩

-- The column by the text that the request has for the table.
def requested (r : Request) (a : Attribute) : SequencedColumn :=
  ⟨r.appliesTo, a.name⟩

theorem filterMap_creationStatements (options : Options) (r : Request) :
    (creationStatements options r).filterMap SequenceStatement.read? =
      (counters r.add).map fun a =>
        .create ⟨none, (announced options r a).sequence options.nameLength⟩ := by
  have table (n : ObjectName) (attributes : List Attribute) :
      SequenceStatement.read? (SchemaChange.tableText n attributes) = none := by
    have starts := SchemaChange.startsWith_tableText n attributes
    exact SequenceStatement.read?_other (startsWith_other starts rfl rfl)
      (startsWith_other starts rfl rfl) (startsWith_other starts rfl rfl)
  have sequence (name : String) : (SchemaChange.createSequence name).statements.filterMap
      SequenceStatement.read? = [.create ⟨none, name⟩] := by
    show [Identity.createText name].filterMap _ = _
    rw [List.filterMap_cons_some (Identity.read?_createText name)]
    rfl
  have first : (SchemaChange.createTable (ObjectName.resolve r.appliesTo options.schema)
      r.add).statements.filterMap SequenceStatement.read? = [] :=
    List.filterMap_cons_none (table _ _)
  rw [creationStatements, List.filterMap_append, first, List.nil_append, List.filterMap_flatMap]
  simp only [sequence]
  exact List.flatMap_pure_eq_map _ _

end CommandLine

theorem CommandLine.sequence_announced_iff (options : Options) (r : Request) (a : Attribute)
    (limit : Nat) :
    (announced options r a).sequence limit = (requested r a).sequence limit ↔
      (ObjectName.resolve r.appliesTo options.schema).name = r.appliesTo ∨
        ¬(requested r a).Fits limit ∧
          (if (announced options r a).Fits limit then (announced options r a).joined
            else (announced options r a).cut limit) = (requested r a).cut limit := by
  have same : announced options r a = requested r a ↔
      (ObjectName.resolve r.appliesTo options.schema).name = r.appliesTo := by
    rw [announced, requested, SequencedColumn.mk.injEq, and_iff_left rfl]
  have shorter : (announced options r a).entity.length ≤ (requested r a).entity.length := by
    rw [announced, requested]
    rcases ObjectName.resolve_cases r.appliesTo options.schema with
      bare | ⟨owner, rest, split, text⟩
    next => rw [bare]
    next =>
      rw [split, text]
      simp only [String.length_append]
      omega
  have column : (announced options r a).column = (requested r a).column := rfl
  rw [SequencedColumn.sequence_eq_iff_of_shorter column shorter, same]

/-- The ledger draws from the sequence that is created with it unless the limit cuts the name. The
sequence that is announced for a column is the one that its numbers are drawn from if the table is
given without an owner, or if the limit cuts off what the owner makes of the name. -/
theorem Options.names_alike_iff (options : Options) :
    (∀ {σ : Type} (engine : Engine σ) (observers : List Observer) (entry : Int → LedgerEntry)
        (s : Session σ), DrawsFrom engine observers (Ledger.append options entry) s
          (Ledger.idColumn.sequence options.nameLength)) ∧
      (SequenceStatement.read? Ledger.createSequenceText =
          some (.create ⟨none, Ledger.idColumn.sequence options.nameLength⟩) ↔
        17 ≤ options.nameLength) ∧
      ∀ r : Request,
        (CommandLine.creationStatements options r).filterMap SequenceStatement.read? =
            (CommandLine.counters r.add).map (fun a =>
              .create ⟨none, (CommandLine.announced options r a).sequence options.nameLength⟩) ∧
          ∀ a : Attribute,
            (∀ {σ : Type} (engine : Engine σ) (observers : List Observer) (s : Session σ),
              DrawsFrom engine observers (Identity.next options r.appliesTo a.name) s
                ((CommandLine.requested r a).sequence options.nameLength)) ∧
            ((CommandLine.announced options r a).sequence options.nameLength =
                (CommandLine.requested r a).sequence options.nameLength ↔
              (ObjectName.resolve r.appliesTo options.schema).name = r.appliesTo ∨
                ¬(CommandLine.requested r a).Fits options.nameLength ∧
                  (if (CommandLine.announced options r a).Fits options.nameLength then
                    (CommandLine.announced options r a).joined
                  else (CommandLine.announced options r a).cut options.nameLength) =
                    (CommandLine.requested r a).cut options.nameLength) := by
  refine ⟨fun engine observers entry s => Ledger.drawsFrom_append engine observers options entry s,
    ?_, fun r => ⟨CommandLine.filterMap_creationStatements options r, fun a =>
      ⟨fun engine observers s =>
        Identity.drawsFrom_next engine observers options r.appliesTo a.name s,
        CommandLine.sequence_announced_iff options r a options.nameLength⟩⟩⟩
  rw [Ledger.read?_createSequenceText, ← Ledger.sequence_idColumn_iff options.four_lt_nameLength]
  simp [eq_comm]

def shortNames : Options :=
  { Options.empty with maxNameLength := some 10 }

def employeesRequest : Request :=
  ⟨"HR.Employees", none, none, "1.0", [{ Attribute.ofType "id" .counter with primary := true }],
    [], []⟩

theorem Options.names_unlike :
    (¬ ∀ options : Options, SequenceStatement.read? Ledger.createSequenceText =
        some (.create ⟨none, Identity.sequence options Ledger.tableName Ledger.idName⟩)) ∧
      ¬ ∀ (options : Options) (r : Request), ∀ a ∈ CommandLine.counters r.add,
        SequenceStatement.create ⟨none, Identity.sequence options r.appliesTo a.name⟩ ∈
          (CommandLine.creationStatements options r).filterMap SequenceStatement.read? := by
  constructor
  next =>
    intro alike
    have created := alike shortNames
    rw [Ledger.read?_createSequenceText] at created
    exact absurd created (by decide +kernel)
  next =>
    intro alike
    have announced := alike .empty employeesRequest
    rw [CommandLine.filterMap_creationStatements] at announced
    exact absurd announced (by decide +kernel)

end OracleSql
