import OracleSql.Proofs.Database.Identity
import OracleSql.Proofs.Schema.SequenceName

set_option autoImplicit false

namespace OracleSql

def IdentityCall.source (c : IdentityCall) : SequencedColumn :=
  ⟨c.entity, c.column⟩

/-- If the text is about a sequence at all, then about this one of the user. -/
def TouchesOnly (sequence sql : String) : Prop :=
  ∀ st, SequenceStatement.read? sql = some st → st.sequence = ⟨none, sequence⟩

namespace TouchesOnly

variable {sequence sql : String}

theorem of_read? {st : SequenceStatement} (read : SequenceStatement.read? sql = some st)
    (name : st.sequence = ⟨none, sequence⟩) : TouchesOnly sequence sql := by
  intro other again
  rw [read] at again
  cases again
  exact name

theorem of_none (h : SequenceStatement.read? sql = none) : TouchesOnly sequence sql := by
  intro st read
  rw [h] at read
  cases read

end TouchesOnly

def IsTouching (sequence : String) : Step → Prop
  | .execute sql _ _ => TouchesOnly sequence sql
  | _ => False

theorem IdentityCall.asks_touching (options : Options) (c : IdentityCall) :
    (c.action options).Asks (IsTouching (c.sequence options)) :=
  c.asks_of options (fun _ => .of_none (Identity.read?_countText _ _))
    (.of_read? (Identity.read?_createText _) rfl) (.of_read? (Identity.read?_nextText _) rfl)
    (fun _ _ => .of_none (Identity.read?_maximumText _ _))
    fun _ => .of_read? (Identity.read?_restartText _ _) rfl

section Calls

variable {σ : Type} {engine : Engine σ} {observers : List Observer} {options : Options}

theorem IdentityCall.exists_sent (engine : Engine σ) (observers : List Observer)
    (options : Options) (c : IdentityCall) (s : Session σ) :
    ∃ sent, (Session.perform engine observers (c.action options) s).2.statements =
        s.statements ++ sent ∧ ∀ sql ∈ sent, TouchesOnly (c.sequence options) sql := by
  refine Session.run_of_asks (fun t : Session σ => ∃ sent, t.statements = s.statements ++ sent ∧
    ∀ sql ∈ sent, TouchesOnly (c.sequence options) sql) ?_ (c.asks_touching options)
      ⟨[], (List.append_nil _).symm, List.forall_mem_nil _⟩
  rintro step t allowed ⟨sent, statements, touches⟩
  match step, allowed with
  | .execute sql params statement, allowed =>
    refine ⟨sent ++ [sql], ?_, ?_⟩
    next =>
      show (t.execute engine observers ⟨sql, params, statement⟩).2.statements = _
      rw [Session.statements_execute, statements, List.append_assoc]
    next => exact List.forall_mem_append.2 ⟨touches, List.forall_mem_singleton.2 allowed⟩

theorem IdentityCall.exists_sent_runAll (calls : List IdentityCall) (s : Session σ) :
    ∃ sent, (runAll options engine observers calls s).statements = s.statements ++ sent ∧
      ∀ sql ∈ sent, ∃ c ∈ calls, TouchesOnly (c.sequence options) sql := by
  induction calls generalizing s with
  | nil => exact ⟨[], (List.append_nil _).symm, List.forall_mem_nil _⟩
  | cons c rest ih =>
    obtain ⟨first, performed, touches⟩ := exists_sent engine observers options c s
    obtain ⟨later, run, others⟩ := ih (Session.perform engine observers (c.action options) s).2
    refine ⟨first ++ later, ?_, List.forall_mem_append.2 ⟨fun sql member => ?_, fun sql member => ?_⟩⟩
    next => rw [← List.append_assoc, ← performed]; exact run
    next => exact ⟨c, List.mem_cons_self, touches sql member⟩
    next =>
      obtain ⟨d, among, touched⟩ := others sql member
      exact ⟨d, List.mem_cons_of_mem c among, touched⟩

theorem IdentityCall.getLast?_statements (c : IdentityCall) {s t : Session σ} {value : Int}
    (h : Session.perform engine observers (c.action options) s = (.ok value, t)) :
    t.statements.getLast? = some (c.closingText options value) := by
  obtain ⟨u, rows, closed⟩ := c.closes_of_succeeded h
  rw [Session.perform_execute] at closed
  obtain ⟨-, rfl⟩ := Prod.mk.inj closed
  rw [Session.statements_execute, List.getLast?_concat]

end Calls

/-- Names that fit give columns sequences of their own, unless the names overlap. A name that is too
long takes the sequence of all names that are cut to the same text. A call is about the sequence of
its own column only, and it is this one that gives the value. -/
theorem IdentityCall.sequences_separate {σ : Type} (engine : Engine σ) (observers : List Observer)
    (options : Options) :
    (∀ limit, ∀ p q : SequencedColumn, p ≠ q → ¬(p.Overlaps q ∨ q.Overlaps p) →
      p.Fits limit → q.Fits limit → p.sequence limit ≠ q.sequence limit) ∧
      (∀ limit, ∀ p q : SequencedColumn, ¬p.Fits limit → ¬q.Fits limit →
        (p.sequence limit = q.sequence limit ↔ p.cut limit = q.cut limit)) ∧
      (∀ limit, ∀ p q : SequencedColumn, p.Fits limit → ¬q.Fits limit →
        (p.sequence limit = q.sequence limit ↔ p.joined = q.cut limit)) ∧
      (∀ (calls : List IdentityCall) (s : Session σ), ∃ sent,
        (runAll options engine observers calls s).statements = s.statements ++ sent ∧
          ∀ sql ∈ sent, ∃ c ∈ calls, TouchesOnly (c.source.sequence options.nameLength) sql) ∧
      ∀ (c : IdentityCall) (s t : Session σ) (value : Int),
        Session.perform engine observers (c.action options) s = (.ok value, t) →
          t.statements.getLast? = some (c.closingText options value) :=
  ⟨fun _ _ _ different apart hp hq => SequencedColumn.sequence_ne_of_apart different apart hp hq,
    fun _ _ _ => SequencedColumn.sequence_eq_iff_of_not_fits,
    fun _ _ _ => SequencedColumn.sequence_eq_iff_of_one_fits,
    fun calls s => exists_sent_runAll calls s, fun c _ _ _ => c.getLast?_statements⟩

def orderId : SequencedColumn :=
  ⟨"Orders", "id"⟩

def orderNumber : SequencedColumn :=
  ⟨"Orders", "number"⟩

def assignmentId : SequencedColumn :=
  ⟨"CustomerRelationshipAssignments", "id"⟩

def assignmentNumber : SequencedColumn :=
  ⟨"CustomerRelationshipAssignments", "number"⟩

theorem IdentityCall.sequences_separate_orders :
    (orderId ≠ orderNumber ∧ ¬(orderId.Overlaps orderNumber ∨ orderNumber.Overlaps orderId) ∧
        orderId.Fits 30 ∧ orderNumber.Fits 30 ∧ orderId.sequence 30 ≠ orderNumber.sequence 30) ∧
      (¬assignmentId.Fits 30 ∧ ¬assignmentNumber.Fits 30 ∧
        assignmentId.sequence 30 = assignmentNumber.sequence 30) ∧
      orderId.sequence 30 ≠ assignmentId.sequence 30 ∧
      ∃ value t, Session.perform (Shared.engine "APP") [] (nextOrder.action hrOptions)
          (Session.start emptyShared) = (.ok value, t) ∧
        t.statements.getLast? = some (Identity.nextText (orderId.sequence 30)) := by
  obtain ⟨own, cut, mixed, -, closes⟩ :=
    IdentityCall.sequences_separate (Shared.engine "APP") [] hrOptions
  have different : orderId ≠ orderNumber := by decide
  have apart : ¬(orderId.Overlaps orderNumber ∨ orderNumber.Overlaps orderId) := by
    rintro (overlaps | overlaps)
    next => exact Nat.lt_irrefl _ overlaps.length_lt
    next => exact Nat.lt_irrefl _ overlaps.length_lt
  have first : orderId.Fits 30 := by decide
  have second : orderNumber.Fits 30 := by decide
  have long : ¬assignmentId.Fits 30 := by decide
  have longer : ¬assignmentNumber.Fits 30 := by decide
  obtain ⟨sent, value, t, sends, -⟩ := sends_nextOrder
  exact ⟨⟨different, apart, first, second, own 30 _ _ different apart first second⟩,
    ⟨long, longer, (cut 30 _ _ long longer).2 rfl⟩,
    mt (mixed 30 _ _ first long).1 (by decide +kernel),
    value, t, sends.performs, closes nextOrder _ t value sends.performs⟩

theorem columns_share_sequence :
    assignmentId ≠ assignmentNumber ∧
      assignmentId.sequence 30 = assignmentNumber.sequence 30 ∧
      (IdentityCall.mk "CustomerRelationshipAssignments" "number" true).closingText .empty 1 =
        Identity.restartText (assignmentId.sequence 30) 1 ∧
      SequencedColumn.mk "Order" "item_id" ≠ SequencedColumn.mk "Order_item" "id" ∧
      SequencedColumn.sequence 30 ⟨"Order", "item_id"⟩ =
        SequencedColumn.sequence 30 ⟨"Order_item", "id"⟩ :=
  ⟨by decide, by decide +kernel, by decide +kernel, by decide, by decide +kernel⟩

end OracleSql
