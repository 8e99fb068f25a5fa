import OracleSql.Proofs.Database.Shared
import OracleSql.Proofs.Migration.Insertion

set_option autoImplicit false

namespace OracleSql

structure IdentityCall where
  entity : String
  column : String
  restarts : Bool

namespace IdentityCall

variable {σ : Type} (options : Options) (engine : Engine σ) (observers : List Observer)

def sequence (c : IdentityCall) : String :=
  Identity.sequence options c.entity c.column

def action (c : IdentityCall) : Action Int :=
  if c.restarts then Identity.reset options c.entity c.column
  else Identity.next options c.entity c.column

def closingText (c : IdentityCall) (value : Int) : String :=
  if c.restarts then Identity.restartText (c.sequence options) value
  else Identity.nextText (c.sequence options)

def runAll (calls : List IdentityCall) (s : Session σ) : Session σ :=
  calls.foldl (fun s c => (Session.perform engine observers (c.action options) s).2) s

end IdentityCall

def IsIdentityStep : Step → Prop
  | .execute sql _ none => Text.startsWith "SELECT " sql = true ∨
      ∃ st, SequenceStatement.read? sql = some st ∧ st.sequence.owner = none
  | _ => False

theorem IdentityCall.asks_of {allowed : Step → Prop} (options : Options) (c : IdentityCall)
    (looks : ∀ n, allowed
      (.execute (Catalog.countText n .sequence) (.text n.name :: Catalog.ownerParams n) none))
    (creates : allowed (.execute (Identity.createText (c.sequence options)) [] none))
    (draws : allowed (.execute (Identity.nextText (c.sequence options)) [] none))
    (seeks : ∀ table column, allowed (.execute (Identity.maximumText table column) [] none))
    (restarts : ∀ n, allowed (.execute (Identity.restartText (c.sequence options) n) [] none)) :
    (c.action options).Asks allowed := by
  have ensure : (Identity.ensure options (c.sequence options)).Asks allowed := by
    refine .bind (.has_of_execute (looks _)) fun there => ?_
    cases there with
    | true => exact .pure ()
    | false => exact .bind (.perform creates) fun _ => .pure ()
  refine .ite ?_ ?_
  next =>
    refine .bind ensure fun _ => .bind (.execute (seeks _ _)) fun rows => ?_
    exact .bind (.bind (.perform (restarts _)) fun _ => .pure ()) fun _ => .pure _
  next => exact .bind ensure fun _ => .bind (.execute draws) fun rows => .expect _ _

theorem IdentityCall.asks_action (options : Options) (c : IdentityCall) :
    (c.action options).Asks IsIdentityStep :=
  c.asks_of options (fun _ => .inl (startsWith_countText _ _))
    (.inr ⟨_, Identity.read?_createText _, rfl⟩) (.inl (startsWith_nextText _))
    (fun _ _ => .inl (Identity.startsWith_maximumText _ _))
    fun _ => .inr ⟨_, Identity.read?_restartText _ _, rfl⟩

namespace Holdings

structure Grows (user : String) (a b : Holdings) : Prop where
  keeps : ∀ o ∈ a.objects, o ∈ b.objects
  adds : ∀ o ∈ b.objects, o ∈ a.objects ∨ o.owner = user

namespace Grows

variable {user : String} {a b c : Holdings}

theorem of_eq (h : b = a) : Grows user a b := by
  subst h
  exact ⟨fun _ there => there, fun _ there => .inl there⟩

theorem trans (h : Grows user a b) (k : Grows user b c) : Grows user a c where
  keeps o there := k.keeps o (h.keeps o there)
  adds o there := by
    rcases k.adds o there with before | own
    next => exact h.adds o before
    next => exact .inr own

theorem withObject {o : OwnedObject} (own : o.owner = user) : Grows user a (a.withObject o) where
  keeps _ there := List.mem_cons_of_mem o there
  adds p there := by
    rcases List.mem_cons.1 there with rfl | before
    next => exact .inr own
    next => exact .inl before

end Grows

end Holdings

section Calls

variable {σ : Type} {engine : Engine σ} {observers : List Observer} {held : σ → Holdings}
  {likes : String → String → Bool} {user : String} {options : Options}

theorem KeepsSequences.grows_execute (keeps : KeepsSequences engine held user) {sql : String}
    (params : List Value) (x : σ) {st : SequenceStatement}
    (read : SequenceStatement.read? sql = some st) (unowned : st.sequence.owner = none) :
    Holdings.Grows user (held x) (held (engine.execute sql params x).2) := by
  have own : (st.object user).owner = user := by rw [SequenceStatement.object, unowned]; rfl
  by_cases there : st.object user ∈ (held x).objects
  next =>
    cases st with
    | create n =>
      obtain ⟨e, y, replies, same⟩ := keeps.refuses sql params x n read there
      exact .of_eq (replies ▸ same)
    | restart n =>
      obtain ⟨rows, y, replies, same⟩ := keeps.restarts sql params x n read there
      exact .of_eq (replies ▸ same)
    | draw n column =>
      obtain ⟨rows, y, value, replies, same, -⟩ := keeps.draws sql params x n column read there
      exact .of_eq (replies ▸ same)
  next =>
    cases st with
    | create n =>
      obtain ⟨rows, y, replies, made⟩ := keeps.creates sql params x n read there
      rw [replies, made]
      exact .withObject own
    | restart | draw =>
      obtain ⟨e, y, replies, same⟩ := keeps.misses sql params x _ read
        (fun _ => SequenceStatement.noConfusion) there
      exact .of_eq (replies ▸ same)

theorem KeepsSequences.grows_perform (keeps : KeepsSequences engine held user)
    (observers : List Observer) {action : Action Int} (asks : action.Asks IsIdentityStep)
    (s : Session σ) : Holdings.Grows user (held s.engine)
      (held (Session.perform engine observers action s).2.engine) := by
  refine Session.run_of_asks (fun t => Holdings.Grows user (held s.engine) (held t.engine)) ?_ asks
    (.of_eq rfl)
  intro step t allowed grown
  match step, allowed with
  | .execute sql params none, allowed =>
    refine grown.trans ?_
    show Holdings.Grows user _ (held (t.execute engine observers ⟨sql, params, none⟩).2.engine)
    rw [Session.execute_engine]
    rcases allowed with query | ⟨st, read, unowned⟩
    next => exact .of_eq (keeps.queries sql params t.engine query)
    next => exact keeps.grows_execute params t.engine read unowned

theorem KeepsSequences.grows_runAll (keeps : KeepsSequences engine held user)
    (observers : List Observer) (options : Options) (calls : List IdentityCall) (s : Session σ) :
    Holdings.Grows user (held s.engine)
      (held (IdentityCall.runAll options engine observers calls s).engine) := by
  induction calls generalizing s with
  | nil => exact .of_eq rfl
  | cons c rest ih => exact (keeps.grows_perform observers (c.asks_action options) s).trans (ih _)

def Holdings.Finds (likes : String → String → Bool) (options : Options) (h : Holdings)
    (sequence : String) : Bool :=
  h.objects.any (OwnedObject.isNamed likes .sequence ⟨options.schema, sequence⟩)

/-- Some owner that the options mean had one of the name, or the user is such an owner. -/
def Options.Sees (likes : String → String → Bool) (user : String) (options : Options) (h : Holdings)
    (sequence : String) : Prop :=
  (⟨options.schema, sequence⟩ : ObjectName).admits likes user = true ∨
    h.Finds likes options sequence = true

def Holdings.Has (user : String) (h : Holdings) (sequence : String) : Prop :=
  ⟨user, .sequence, sequence⟩ ∈ h.objects

theorem Identity.sends_ensure_found (shows : ShowsCatalog engine held likes)
    (passive : ∀ o ∈ observers, o.IsPassive) {sequence : String} {s : Session σ}
    (found : (held s.engine).Finds likes options sequence = true) :
    ∃ t, Session.Sends engine observers (ensure options sequence) s
        [Catalog.countText ⟨options.schema, sequence⟩ .sequence] (.ok ()) t ∧
      held t.engine = held s.engine := by
  obtain ⟨t, looked, same, -⟩ := shows.sends_has passive .sequence ⟨options.schema, sequence⟩ s
  rw [← Holdings.Finds, found] at looked
  exact ⟨t, looked.bind_done rfl, same⟩

theorem Identity.sends_ensure_missed (shows : ShowsCatalog engine held likes)
    (keeps : KeepsSequences engine held user) (passive : ∀ o ∈ observers, o.IsPassive)
    {sequence : String} {s : Session σ}
    (missed : (held s.engine).Finds likes options sequence = false)
    (has : (held s.engine).Has user sequence) :
    ∃ e t, Session.Sends engine observers (ensure options sequence) s
      [Catalog.countText ⟨options.schema, sequence⟩ .sequence, createText sequence]
      (.error (.engine e)) t := by
  obtain ⟨t, looked, same, -⟩ := shows.sends_has passive .sequence ⟨options.schema, sequence⟩ s
  rw [← Holdings.Finds, missed] at looked
  rw [← same] at has
  -- The user has had it all the time.
  obtain ⟨e, x, replies, -⟩ := keeps.refuses _ [] t.engine _ (read?_createText sequence) has
  obtain ⟨u, refused, -, -⟩ := Session.Sends.perform passive replies
  exact ⟨e, u, looked.bind refused.bind_error⟩

theorem Identity.sends_next_created (shows : ShowsCatalog engine held likes)
    (keeps : KeepsSequences engine held user) (passive : ∀ o ∈ observers, o.IsPassive)
    {entity column : String} {s : Session σ}
    (missed : (held s.engine).Finds likes options (sequence options entity column) = false)
    (lacks : ¬(held s.engine).Has user (sequence options entity column)) :
    ∃ sent value t,
      Session.Sends engine observers (next options entity column) s sent (.ok value) t ∧
        held t.engine =
          (held s.engine).withObject ⟨user, .sequence, sequence options entity column⟩ := by
  obtain ⟨t, looked, same, -⟩ := shows.sends_has passive .sequence
    ⟨options.schema, sequence options entity column⟩ s
  rw [← Holdings.Finds, missed] at looked
  rw [← same] at lacks ⊢
  obtain ⟨rows, x, replies, made⟩ := keeps.creates _ [] t.engine _ (read?_createText _) lacks
  obtain ⟨u, created, reached, -⟩ := Session.Sends.perform passive replies
  have has : (held u.engine).Has user (sequence options entity column) := by
    rw [reached, made]
    exact List.mem_cons_self
  obtain ⟨rows', y, value, replies', kept, drawn⟩ := keeps.draws _ [] u.engine _ _
    (read?_nextText (sequence options entity column)) has
  obtain ⟨v, sent, reached', -⟩ := Session.Sends.execute passive replies'
  refine ⟨_, value, v, (looked.bind (created.bind_done rfl)).bind (sent.bind_done ?_), ?_⟩
  next => rw [drawn]; rfl
  next => rw [reached', kept, reached, made]; rfl

theorem Identity.sends_next_found (shows : ShowsCatalog engine held likes)
    (keeps : KeepsSequences engine held user) (passive : ∀ o ∈ observers, o.IsPassive)
    {entity column : String} {s : Session σ}
    (found : (held s.engine).Finds likes options (sequence options entity column) = true)
    (has : (held s.engine).Has user (sequence options entity column)) :
    ∃ value t, Session.Sends engine observers (next options entity column) s
      [Catalog.countText ⟨options.schema, sequence options entity column⟩ .sequence,
        nextText (sequence options entity column)] (.ok value) t := by
  obtain ⟨t, ensured, same⟩ := sends_ensure_found shows passive found
  rw [← same] at has
  obtain ⟨rows, x, value, replies, -, drawn⟩ := keeps.draws _ [] t.engine _ _
    (read?_nextText (sequence options entity column)) has
  obtain ⟨u, sent, -, -⟩ := Session.Sends.execute passive replies
  refine ⟨value, u, ensured.bind (sent.bind_done ?_)⟩
  rw [drawn]
  rfl

theorem Identity.sends_reset_found (shows : ShowsCatalog engine held likes)
    (keeps : KeepsSequences engine held user) (passive : ∀ o ∈ observers, o.IsPassive)
    {entity column : String} {s : Session σ}
    (found : (held s.engine).Finds likes options (sequence options entity column) = true)
    (has : (held s.engine).Has user (sequence options entity column)) :
    ∃ sent out t, Session.Sends engine observers (reset options entity column) s sent out t ∧
      ∀ sql ∈ sent, Text.startsWith "CREATE SEQUENCE " sql = false := by
  obtain ⟨t, ensured, same⟩ := sends_ensure_found shows passive found
  have count : Text.startsWith "CREATE SEQUENCE " (Catalog.countText
      ⟨options.schema, sequence options entity column⟩ .sequence) = false :=
    startsWith_other (startsWith_countText _ _) rfl rfl
  have maximum : Text.startsWith "CREATE SEQUENCE " (maximumText
      (ObjectName.resolve entity options.schema) column) = false :=
    startsWith_other (startsWith_maximumText _ _) rfl rfl
  rcases replies : engine.execute (maximumText (ObjectName.resolve entity options.schema) column) []
    t.engine with ⟨_ | rows, x⟩
  all_goals obtain ⟨u, asked, reached, -⟩ := Session.Sends.execute passive replies
  next => exact ⟨_, _, u, ensured.bind asked.bind_error, by simp [count, maximum]⟩
  next =>
    have kept := keeps.queries _ [] t.engine
      (startsWith_maximumText (ObjectName.resolve entity options.schema) column)
    rw [replies] at kept
    rw [← same, ← kept, ← reached] at has
    obtain ⟨rows', y, replies', -⟩ := keeps.restarts _ [] u.engine _
      (read?_restartText (sequence options entity column) (startAfter rows)) has
    obtain ⟨v, restarted, -, -⟩ := Session.Sends.perform passive replies'
    have restart : Text.startsWith "CREATE SEQUENCE "
        (restartText (sequence options entity column) (startAfter rows)) = false :=
      startsWith_other (startsWith_restartText _ _) rfl rfl
    refine ⟨_, _, v, ensured.bind (asked.bind ((restarted.bind_done rfl).bind_done rfl)), ?_⟩
    simp [count, maximum, restart]

theorem IdentityCall.sends_found (shows : ShowsCatalog engine held likes)
    (keeps : KeepsSequences engine held user) (passive : ∀ o ∈ observers, o.IsPassive)
    (c : IdentityCall) {s : Session σ}
    (found : (held s.engine).Finds likes options (c.sequence options) = true)
    (has : (held s.engine).Has user (c.sequence options)) :
    ∃ sent out t, Session.Sends engine observers (c.action options) s sent out t ∧
      (∀ sql ∈ sent, Text.startsWith "CREATE SEQUENCE " sql = false) ∧
      (c.restarts = false → ∃ value, out = .ok value) := by
  rw [action]
  cases c.restarts with
  | true =>
    obtain ⟨sent, out, t, sends, none⟩ := Identity.sends_reset_found shows keeps passive found has
    exact ⟨sent, out, t, sends, none, fun next => Bool.noConfusion next⟩
  | false =>
    obtain ⟨value, t, sends⟩ := Identity.sends_next_found shows keeps passive found has
    refine ⟨_, _, t, sends, ?_, fun _ => ⟨value, rfl⟩⟩
    have count : Text.startsWith "CREATE SEQUENCE " (Catalog.countText
        ⟨options.schema, Identity.sequence options c.entity c.column⟩ .sequence) = false :=
      startsWith_other (startsWith_countText _ _) rfl rfl
    have next : Text.startsWith "CREATE SEQUENCE "
        (Identity.nextText (Identity.sequence options c.entity c.column)) = false :=
      startsWith_other (startsWith_nextText _) rfl rfl
    simp [count, next]

theorem IdentityCall.sends_missed (shows : ShowsCatalog engine held likes)
    (keeps : KeepsSequences engine held user) (passive : ∀ o ∈ observers, o.IsPassive)
    (c : IdentityCall) {s : Session σ}
    (missed : (held s.engine).Finds likes options (c.sequence options) = false)
    (has : (held s.engine).Has user (c.sequence options)) :
    ∃ sent e t, Session.Sends engine observers (c.action options) s sent (.error (.engine e)) t ∧
      Identity.createText (c.sequence options) ∈ sent := by
  obtain ⟨e, t, refused⟩ := Identity.sends_ensure_missed shows keeps passive missed has
  have sends : Session.Sends engine observers (c.action options) s
      [Catalog.countText ⟨options.schema, c.sequence options⟩ .sequence,
        Identity.createText (c.sequence options)] (.error (.engine e)) t := by
    rw [action]
    cases c.restarts with
    | true => exact refused.bind_error
    | false => exact refused.bind_error
  exact ⟨_, e, t, sends, List.mem_cons_of_mem _ List.mem_cons_self⟩

theorem KeepsSequences.has_of_executed (keeps : KeepsSequences engine held user)
    (passive : ∀ o ∈ observers, o.IsPassive) {sql sequence : String} {st : SequenceStatement}
    (read : SequenceStatement.read? sql = some st) (other : ∀ n, st ≠ .create n)
    (name : st.sequence = ⟨none, sequence⟩) {s t : Session σ} {rows : List Row}
    (h : Session.perform engine observers (Action.execute sql [] none) s = (.ok rows, t)) :
    (held t.engine).Has user sequence := by
  have object : st.object user = ⟨user, .sequence, sequence⟩ := by
    rw [SequenceStatement.object, name]
    rfl
  obtain ⟨u, performed, reached, -⟩ := Session.perform_execute_plain engine passive sql [] s
  rw [performed] at h
  by_cases there : st.object user ∈ (held s.engine).objects
  next =>
    have same : held (engine.execute sql [] s.engine).2 = held s.engine := by
      cases st with
      | create n => exact absurd rfl (other n)
      | restart n =>
        obtain ⟨rows, y, replies, same⟩ := keeps.restarts sql [] s.engine n read there
        exact replies ▸ same
      | draw n column =>
        obtain ⟨rows, y, value, replies, same, -⟩ := keeps.draws sql [] s.engine n column read there
        exact replies ▸ same
    have final : t = u := (congrArg Prod.snd h).symm
    rw [Holdings.Has, ← object, final, reached, same]
    exact there
  next =>
    obtain ⟨e, y, replies, -⟩ := keeps.misses sql [] s.engine st read other there
    rw [replies] at h
    cases h

theorem IdentityCall.closes_of_succeeded (c : IdentityCall) {s t : Session σ} {value : Int}
    (h : Session.perform engine observers (c.action options) s = (.ok value, t)) :
    ∃ u rows, Session.perform engine observers
      (Action.execute (c.closingText options value) [] none) u = (.ok rows, t) := by
  rw [action] at h
  rw [closingText]
  cases restarts : c.restarts with
  | true =>
    rw [restarts] at h
    obtain ⟨_, u, -, h⟩ := Session.exists_of_perform_bind h
    obtain ⟨rows, v, -, h⟩ := Session.exists_of_perform_bind h
    obtain ⟨_, w, restarted, done⟩ := Session.exists_of_perform_bind h
    obtain ⟨_, x, performed, applied⟩ := Session.exists_of_perform_bind restarted
    obtain ⟨rows', y, executed, quiet⟩ := Session.exists_of_perform_bind performed
    cases quiet
    cases applied
    cases done
    exact ⟨v, rows', executed⟩
  | false =>
    rw [restarts] at h
    obtain ⟨_, u, -, h⟩ := Session.exists_of_perform_bind h
    obtain ⟨rows, v, drawn, read⟩ := Session.exists_of_perform_bind h
    have same : (Session.perform engine observers (Action.expect
        (rows.head?.bind fun row => row.int? "resultId")
          (.sequenceWithoutValue (c.sequence options))) v).2 = v := by
      cases rows.head?.bind fun row => row.int? "resultId" <;> rfl
    have reached : t = v := (congrArg Prod.snd read).symm.trans same
    exact ⟨u, rows, reached ▸ drawn⟩

theorem IdentityCall.has_of_succeeded (keeps : KeepsSequences engine held user)
    (passive : ∀ o ∈ observers, o.IsPassive) (c : IdentityCall) {s t : Session σ} {value : Int}
    (h : Session.perform engine observers (c.action options) s = (.ok value, t)) :
    (held t.engine).Has user (c.sequence options) := by
  obtain ⟨u, rows, closed⟩ := c.closes_of_succeeded h
  rw [closingText] at closed
  cases restarts : c.restarts with
  | true =>
    rw [restarts] at closed
    exact keeps.has_of_executed passive (Identity.read?_restartText (c.sequence options) value)
      (fun _ => SequenceStatement.noConfusion) rfl closed
  | false =>
    rw [restarts] at closed
    exact keeps.has_of_executed passive (Identity.read?_nextText (c.sequence options))
      (fun _ => SequenceStatement.noConfusion) rfl closed

-- Who has had a sequence of the name, and what the user has since, decide whether it is found.
theorem Holdings.Grows.finds_iff {a b : Holdings} (grown : Grows user a b) {sequence : String}
    (has : b.Has user sequence) :
    b.Finds likes options sequence = true ↔ options.Sees likes user a sequence := by
  rw [Options.Sees, Finds, Finds, List.any_eq_true, List.any_eq_true]
  constructor
  next =>
    rintro ⟨o, there, named⟩
    -- Whatever is new is the user's, so finding it means that the options admit the user.
    rcases grown.adds o there with before | own
    next => exact .inr ⟨o, before, named⟩
    next =>
      rw [OwnedObject.isNamed, Bool.and_eq_true, own] at named
      exact .inl named.2
  next =>
    rintro (admits | ⟨o, before, named⟩)
    next => exact ⟨_, has, by simp [OwnedObject.isNamed, admits]⟩
    next => exact ⟨o, grown.keeps o before, named⟩

/-- Once a call for a column has succeeded, a later call for it creates the sequence again, and fails,
unless the options name no schema, or one that is the user's, or one that had such a sequence from
the start. Then values keep coming. -/
theorem Identity.creates_again_unless_sees (shows : ShowsCatalog engine held likes)
    (keeps : KeepsSequences engine held user) (passive : ∀ o ∈ observers, o.IsPassive)
    (options : Options) (first again : IdentityCall) (between : List IdentityCall)
    (same : again.sequence options = first.sequence options) {s t : Session σ} {value : Int}
    (succeeded : Session.perform engine observers (first.action options) s = (.ok value, t)) :
    ∃ sent out u, Session.Sends engine observers (again.action options)
        (IdentityCall.runAll options engine observers between t) sent out u ∧
      (options.Sees likes user (held s.engine) (first.sequence options) →
        (∀ sql ∈ sent, Text.startsWith "CREATE SEQUENCE " sql = false) ∧
          (again.restarts = false → ∃ value, out = .ok value)) ∧
      (¬options.Sees likes user (held s.engine) (first.sequence options) →
        createText (first.sequence options) ∈ sent ∧ ∃ failure, out = .error failure) := by
  have had := first.has_of_succeeded keeps passive succeeded
  have since := keeps.grows_runAll observers options between t
  have grown : Holdings.Grows user (held s.engine)
      (held (IdentityCall.runAll options engine observers between t).engine) := by
    have before := keeps.grows_perform observers (first.asks_action options) s
    rw [succeeded] at before
    exact before.trans since
  have has : (held (IdentityCall.runAll options engine observers between t).engine).Has user
      (first.sequence options) := since.keeps _ had
  rw [← grown.finds_iff has, ← same]
  rw [← same] at has
  cases found : (held (IdentityCall.runAll options engine observers between t).engine).Finds likes
      options (again.sequence options) with
  | true =>
    obtain ⟨sent, out, u, sends, none, next⟩ := again.sends_found shows keeps passive found has
    exact ⟨sent, out, u, sends, fun _ => ⟨none, next⟩, fun missed => absurd rfl missed⟩
  | false =>
    obtain ⟨sent, e, u, sends, creates⟩ := again.sends_missed shows keeps passive found has
    exact ⟨sent, _, u, sends, fun finds => Bool.noConfusion finds, fun _ => ⟨creates, _, rfl⟩⟩

end Calls

def hrOptions : Options :=
  { Options.empty with schema := some "HR" }

def nextOrder : IdentityCall :=
  ⟨"Orders", "id", false⟩

def emptyShared : Shared :=
  ⟨[], [], 0⟩

theorem sends_nextOrder : ∃ sent value t,
    Session.Sends (Shared.engine "APP") [] (nextOrder.action hrOptions) (Session.start emptyShared)
        sent (.ok value) t ∧
      t.engine.held = emptyShared.held.withObject
        ⟨"APP", .sequence, nextOrder.sequence hrOptions⟩ := by
  have missed : emptyShared.held.Finds Shared.likes hrOptions (nextOrder.sequence hrOptions) =
      false := rfl
  have lacks : ¬emptyShared.held.Has "APP" (nextOrder.sequence hrOptions) := List.not_mem_nil
  exact Identity.sends_next_created (s := Session.start emptyShared) (Shared.showsCatalog "APP")
    (Shared.keepsSequences "APP") (List.forall_mem_nil _) missed lacks

theorem creates_again_orders : ∃ value t,
    Session.perform (Shared.engine "APP") [] (nextOrder.action hrOptions)
        (Session.start emptyShared) = (.ok value, t) ∧
      ∃ sent out u, Session.Sends (Shared.engine "APP") [] (nextOrder.action hrOptions)
          (IdentityCall.runAll hrOptions (Shared.engine "APP") [] [nextOrder] t) sent out u ∧
        (hrOptions.Sees Shared.likes "APP" emptyShared.held (nextOrder.sequence hrOptions) →
          (∀ sql ∈ sent, Text.startsWith "CREATE SEQUENCE " sql = false) ∧
            (nextOrder.restarts = false → ∃ value, out = .ok value)) ∧
        (¬hrOptions.Sees Shared.likes "APP" emptyShared.held (nextOrder.sequence hrOptions) →
          Identity.createText (nextOrder.sequence hrOptions) ∈ sent ∧
            ∃ failure, out = .error failure) := by
  obtain ⟨sent, value, t, sends, -⟩ := sends_nextOrder
  exact ⟨value, t, sends.performs, Identity.creates_again_unless_sees (Shared.showsCatalog "APP")
    (Shared.keepsSequences "APP") (List.forall_mem_nil _) hrOptions nextOrder nextOrder [nextOrder]
    rfl sends.performs⟩

theorem order_sequence_created_again : ∃ value t,
    Session.perform (Shared.engine "APP") [] (nextOrder.action hrOptions)
        (Session.start emptyShared) = (.ok value, t) ∧
      ∃ sent failure u, Session.Sends (Shared.engine "APP") [] (nextOrder.action hrOptions) t sent
          (.error failure) u ∧
        Identity.createText (nextOrder.sequence hrOptions) ∈ sent := by
  obtain ⟨sent, value, t, sends, made⟩ := sends_nextOrder
  have hidden : (⟨some "HR", nextOrder.sequence hrOptions⟩ : ObjectName).admits Shared.likes "APP" =
      false := by
    decide
  have missed : t.engine.held.Finds Shared.likes hrOptions (nextOrder.sequence hrOptions) =
      false := by
    rw [made]
    show (OwnedObject.isNamed Shared.likes .sequence ⟨some "HR", nextOrder.sequence hrOptions⟩
      ⟨"APP", .sequence, nextOrder.sequence hrOptions⟩ || false) = false
    rw [OwnedObject.isNamed, hidden, Bool.and_false, Bool.or_false]
  have has : t.engine.held.Has "APP" (nextOrder.sequence hrOptions) := by
    rw [made]
    exact List.mem_cons_self
  obtain ⟨later, e, u, refused, creates⟩ := nextOrder.sends_missed (Shared.showsCatalog "APP")
    (Shared.keepsSequences "APP") (List.forall_mem_nil _) missed has
  exact ⟨value, t, sends.performs, later, _, u, refused, creates⟩

end OracleSql
