import Mathlib.Logic.Function.Basic
import OracleSql.Proofs.Session.Transaction

set_option autoImplicit false

namespace OracleSql

-- Tasks that use one session at the same time. A task that has its turn goes on by one step, which
-- may be a statement, a hook, or a look at the flag of the transaction.
inductive Act where
  | entered (wasOpen : Bool)
  | left
  | statement (sql : String) (params : List Value) (accepted : Bool)
  | hook (h : Hook) (accepted : Bool)

namespace Act

def IsStatement : Act → Prop
  | .statement _ _ _ => True
  | _ => False

/-- Leaves the transaction of the connection as it is. -/
def IsCalm : Act → Prop
  | .entered _ | .statement _ _ _ => True
  | .left | .hook _ _ => False

end Act

def Step.act? : (asked : Step) → asked.Answer → Option Act
  | .execute sql params _, reply => some (.statement sql params reply.isOk)
  | .hook h, reply => some (.hook h reply.isOk)
  | .enterTransaction, wasOpen => some (.entered wasOpen)
  | .leaveTransaction, _ => some .left
  | .ledgerKnown, _ | .rememberLedger, _ => none

structure Move (ι : Type) where
  task : ι
  act : Act

def Step.moves {ι : Type} (asked : Step) (answer : asked.Answer) (i : ι) : List (Move ι) :=
  (asked.act? answer).toList.map (⟨i, ·⟩)

theorem Step.of_mem_moves {ι : Type} {asked : Step} {answer : asked.Answer} {i : ι} {m : Move ι}
    (h : m ∈ asked.moves answer i) : m.task = i ∧ asked.act? answer = some m.act := by
  obtain ⟨act, did, rfl⟩ := List.mem_map.1 h
  exact ⟨rfl, Option.mem_toList.1 did⟩

/-- One session and the programs that are left to its tasks, with what they did so far. -/
structure Pool (ι σ : Type) (R : ι → Type) where
  session : Session σ
  tasks : ∀ i, Program (Except Failure (R i))
  moves : List (Move ι)

namespace Pool

variable {ι σ : Type} [DecidableEq ι] {R : ι → Type} (engine : Engine σ) (observers : List Observer)

def moved (p : Pool ι σ R) (i : ι) (asked : Step)
    (next : asked.Answer → Program (Except Failure (R i))) : Pool ι σ R :=
  let (answer, session) := p.session.step engine observers asked
  ⟨session, Function.update p.tasks i (next answer), p.moves ++ asked.moves answer i⟩

def turn (p : Pool ι σ R) (i : ι) : Pool ι σ R :=
  match p.tasks i with
  | .done _ => p
  | .ask asked next => p.moved engine observers i asked next

def run (schedule : List ι) (p : Pool ι σ R) : Pool ι σ R :=
  schedule.foldl (turn engine observers) p

def start (bodies : ∀ i, Body (R i)) (s : Session σ) : Pool ι σ R :=
  ⟨s, fun i => (transaction (bodies i).action).run, []⟩

theorem run_of_turn {engine : Engine σ} {observers : List Observer} (inv : Pool ι σ R → Prop)
    (keeps : ∀ p i, inv p → inv (p.turn engine observers i)) (schedule : List ι) {p : Pool ι σ R}
    (start : inv p) : inv (p.run engine observers schedule) := by
  induction schedule generalizing p with
  | nil => exact start
  | cons i rest ih => exact ih (keeps p i start)

end Pool

inductive Phase where
  | idle
  | begins
  | holds
  | leaves
  deriving DecidableEq

def Step.IsInner : Step → Prop
  | .execute _ _ _ | .ledgerKnown | .rememberLedger | .enterTransaction => True
  | .hook _ | .leaveTransaction => False

namespace Phase

def after : Phase → Act → Phase
  | .idle, .entered false => .begins
  | .begins, .hook _ true => .holds
  | .begins, .hook _ false => .leaves
  | .holds, .hook _ _ => .leaves
  | .leaves, .left => .idle
  | phase, _ => phase

def next (phase : Phase) (asked : Step) (answer : asked.Answer) : Phase :=
  match asked.act? answer with
  | some act => phase.after act
  | none => phase

def Allows : Phase → Step → Prop
  | .idle, asked => asked.IsInner
  | .begins, asked => asked = .hook .begin
  | .holds, asked => asked.IsInner ∨ ∃ h, asked = .hook h ∧ h ≠ .begin
  | .leaves, asked => asked = .leaveTransaction

-- Whoever holds the transaction finds it open.
def Expects : Phase → (asked : Step) → asked.Answer → Prop
  | .holds, .enterTransaction, wasOpen => wasOpen = true
  | _, _, _ => True

def IsSteady (phase : Phase) : Prop :=
  phase = .idle ∨ phase = .holds

theorem leaves_of_allows {phase : Phase} (h : phase.Allows .leaveTransaction) : phase = .leaves := by
  cases phase with
  | leaves => rfl
  | idle | begins => cases h
  | holds =>
    rcases h with inner | ⟨_, isHook, _⟩
    next => cases inner
    next => cases isHook

theorem begins_of_allows {phase : Phase} (h : phase.Allows (.hook .begin)) : phase = .begins := by
  cases phase with
  | begins => rfl
  | idle | leaves => cases h
  | holds =>
    rcases h with inner | ⟨_, same, other⟩
    next => cases inner
    next => cases same; exact absurd rfl other

theorem idle_next {asked : Step} (noEntry : asked ≠ .enterTransaction) (answer : asked.Answer) :
    Phase.idle.next asked answer = .idle := by
  cases asked with
  | enterTransaction => exact absurd rfl noEntry
  | execute | hook | leaveTransaction | ledgerKnown | rememberLedger => rfl

theorem holds_next {asked : Step} (inner : asked.IsInner) (answer : asked.Answer) :
    Phase.holds.next asked answer = .holds := by
  cases asked with
  | hook | leaveTransaction => cases inner
  | execute | enterTransaction | ledgerKnown | rememberLedger => rfl

end Phase

namespace Program

variable {α β : Type} {phase middle ends : Phase}

/-- The program goes through the phases in their order and is in the given one in the end. -/
def Follows (ends : Phase) : Phase → Program α → Prop
  | phase, .done _ => phase = ends
  | phase, .ask asked next =>
      phase.Allows asked ∧
        ∀ answer, phase.Expects asked answer → (next answer).Follows ends (phase.next asked answer)

-- Inside an open transaction the program calls no hook, not for transactions of its own either.
def Joins : Program α → Prop
  | .done _ => True
  | .ask asked next =>
      asked.IsInner ∧ ∀ answer, Phase.holds.Expects asked answer → (next answer).Joins

theorem Follows.bind {p : Program α} {f : α → Program β} (h : p.Follows middle phase)
    (k : ∀ a, (f a).Follows ends middle) : (p >>= f).Follows ends phase := by
  induction p generalizing phase with
  | done a =>
    cases h
    exact k a
  | ask asked next ih => exact ⟨h.1, fun answer fits => ih answer (h.2 answer fits)⟩

theorem Joins.bind {p : Program α} {f : α → Program β} (h : p.Joins) (k : ∀ a, (f a).Joins) :
    (p >>= f).Joins := by
  induction p with
  | done a => exact k a
  | ask asked next ih => exact ⟨h.1, fun answer fits => ih answer (h.2 answer fits)⟩

theorem next_of_quiet {asked : Step} (quiet : IsQuiet asked) (steady : phase.IsSteady)
    (answer : asked.Answer) : phase.next asked answer = phase := by
  cases asked with
  | execute | ledgerKnown | rememberLedger => rcases steady with rfl | rfl <;> rfl
  | hook | enterTransaction | leaveTransaction => cases quiet

theorem isInner_of_quiet {asked : Step} (quiet : IsQuiet asked) : asked.IsInner := by
  cases asked with
  | execute | ledgerKnown | rememberLedger => trivial
  | hook | enterTransaction | leaveTransaction => cases quiet

theorem follows_of_asks {p : Program α} (h : p.Asks IsQuiet) (steady : phase.IsSteady) :
    p.Follows phase phase := by
  induction p with
  | done a => rfl
  | ask asked next ih =>
    refine ⟨?_, fun answer _ => ?_⟩
    next =>
      rcases steady with rfl | rfl
      next => exact isInner_of_quiet h.1
      next => exact .inl (isInner_of_quiet h.1)
    next =>
      rw [next_of_quiet h.1 steady]
      exact ih answer (h.2 answer)

theorem joins_of_asks {p : Program α} (h : p.Asks IsQuiet) : p.Joins := by
  induction p with
  | done a => trivial
  | ask asked next ih => exact ⟨isInner_of_quiet h.1, fun answer _ => ih answer (h.2 answer)⟩

end Program

def closing {α : Type} (result : Except Failure α) : Program (Except Failure α) := do
  let finished ← (Action.hook (hookAfter result)).run
  Program.ask1 .leaveTransaction
  pure (finish result finished)

def opening {α : Type} (body : Action α) : Program (Except Failure α) :=
  .ask (.hook .begin) fun
    | .error e => .ask .leaveTransaction fun _ => .done (.error (.engine e))
    | .ok () => body.run >>= closing

theorem run_transaction {α : Type} (body : Action α) :
    (transaction body).run =
      .ask .enterTransaction fun wasOpen => if wasOpen then body.run else opening body := by
  refine congrArg (Program.ask .enterTransaction) (funext fun wasOpen => ?_)
  cases wasOpen with
  | true => rfl
  | false =>
    refine congrArg (Program.ask (.hook .begin)) (funext fun reply => ?_)
    cases reply <;> rfl

theorem closing_eq {α : Type} (result : Except Failure α) :
    closing result = .ask (.hook (hookAfter result)) fun reply =>
      .ask .leaveTransaction fun _ => .done (finish result (Action.engineResult reply)) := rfl

theorem hookAfter_ne_begin {α : Type} (result : Except Failure α) : hookAfter result ≠ .begin := by
  cases result <;> exact Hook.noConfusion

section Bodies

variable {α : Type}

theorem follows_closing (result : Except Failure α) : (closing result).Follows .idle .holds :=
  ⟨.inr ⟨_, rfl, hookAfter_ne_begin result⟩, fun _ _ => ⟨rfl, fun _ _ => rfl⟩⟩

theorem follows_transaction {body : Action α}
    (follows : ∀ phase : Phase, phase.IsSteady → body.run.Follows phase phase) {phase : Phase}
    (steady : phase.IsSteady) : (transaction body).run.Follows phase phase := by
  rw [run_transaction]
  rcases steady with rfl | rfl
  next =>
    refine ⟨trivial, fun wasOpen _ => ?_⟩
    cases wasOpen with
    | true => exact follows .idle (.inl rfl)
    | false =>
      refine ⟨rfl, fun reply _ => ?_⟩
      cases reply with
      | error e => exact ⟨rfl, fun _ _ => rfl⟩
      | ok => exact (follows .holds (.inr rfl)).bind follows_closing
  next =>
    refine ⟨.inl trivial, ?_⟩
    rintro wasOpen (rfl : wasOpen = true)
    exact follows .holds (.inr rfl)

theorem Body.follows (body : Body α) {phase : Phase} (steady : phase.IsSteady) :
    body.action.run.Follows phase phase := by
  induction body generalizing phase with
  | work action quiet => exact Program.follows_of_asks quiet steady
  | andThen first next ihFirst ihNext =>
    refine (ihFirst steady).bind fun result => ?_
    cases result with
    | ok a => exact ihNext a steady
    | error failure => rfl
  | attempt inner ih => exact (ih steady).bind fun _ => rfl
  | nested inner ih => exact follows_transaction (fun _ => ih) steady

theorem Body.joins (body : Body α) : body.action.run.Joins := by
  induction body with
  | work action quiet => exact Program.joins_of_asks quiet
  | andThen first next ihFirst ihNext =>
    refine ihFirst.bind fun result => ?_
    cases result with
    | ok a => exact ihNext a
    | error failure => trivial
  | attempt inner ih => exact ih.bind fun _ => trivial
  | nested inner ih =>
    show (transaction inner.action).run.Joins
    rw [run_transaction]
    refine ⟨trivial, ?_⟩
    rintro wasOpen (rfl : wasOpen = true)
    exact ih

end Bodies

theorem Step.isCalm_of_isInner {asked : Step} (inner : asked.IsInner) {answer : asked.Answer}
    {act : Act} (did : asked.act? answer = some act) : act.IsCalm := by
  cases asked with
  | execute | enterTransaction => cases did; trivial
  | ledgerKnown | rememberLedger => cases did
  | hook | leaveTransaction => cases inner

theorem Session.free_of_step {σ : Type} {engine : Engine σ} {observers : List Observer}
    {asked : Step} {s : Session σ}
    (isFree : (s.step engine observers asked).2.inTransaction = false) :
    asked = .leaveTransaction ∨ s.inTransaction = false ∧ asked ≠ .enterTransaction := by
  cases asked with
  | leaveTransaction => exact .inl rfl
  | enterTransaction => cases isFree
  | execute => exact .inr ⟨(continues_execute _ s).open_eq.symm.trans isFree, Step.noConfusion⟩
  | hook | ledgerKnown | rememberLedger => exact .inr ⟨isFree, Step.noConfusion⟩

section Exclusion

variable {ι σ : Type} [DecidableEq ι] {R : ι → Type}

def phaseAfter (i : ι) (moves : List (Move ι)) : Phase :=
  moves.foldl (fun phase m => if m.task = i then phase.after m.act else phase) .idle

theorem phaseAfter_append_singleton (i : ι) (moves : List (Move ι)) (m : Move ι) :
    phaseAfter i (moves ++ [m]) =
      if m.task = i then (phaseAfter i moves).after m.act else phaseAfter i moves := by
  simp [phaseAfter]

namespace Pool

theorem turn_of_done {engine : Engine σ} {observers : List Observer} {p : Pool ι σ R} {i : ι}
    {result : Except Failure (R i)} (finished : p.tasks i = .done result) :
    p.turn engine observers i = p := by
  rw [turn, finished]

theorem turn_of_ask {engine : Engine σ} {observers : List Observer} {p : Pool ι σ R} {i : ι}
    {asked : Step} {next : asked.Answer → Program (Except Failure (R i))}
    (ready : p.tasks i = .ask asked next) :
    p.turn engine observers i = p.moved engine observers i asked next := by
  rw [turn, ready]

/-- Every task keeps to its phases, and only one at a time is not idle, with the flag set. -/
structure Orderly (p : Pool ι σ R) : Prop where
  follows : ∀ i, (p.tasks i).Follows .idle (phaseAfter i p.moves)
  free : p.session.inTransaction = false → ∀ i, phaseAfter i p.moves = .idle
  single : ∀ i j, phaseAfter i p.moves ≠ .idle → phaseAfter j p.moves ≠ .idle → i = j

section Moved

variable (engine : Engine σ) (observers : List Observer) (p : Pool ι σ R) (i : ι) (asked : Step)
  (next : asked.Answer → Program (Except Failure (R i)))

theorem moves_moved : (p.moved engine observers i asked next).moves =
    p.moves ++ asked.moves (p.session.step engine observers asked).1 i := rfl

theorem tasks_moved_self : (p.moved engine observers i asked next).tasks i =
    next (p.session.step engine observers asked).1 :=
  Function.update_self ..

theorem tasks_moved_of_ne {j : ι} (other : j ≠ i) :
    (p.moved engine observers i asked next).tasks j = p.tasks j :=
  Function.update_of_ne other ..

theorem phaseAfter_moved_self : phaseAfter i (p.moved engine observers i asked next).moves =
    (phaseAfter i p.moves).next asked (p.session.step engine observers asked).1 := by
  rw [moves_moved, Step.moves, Phase.next]
  cases asked.act? (p.session.step engine observers asked).1 with
  | none => simp
  | some act => simp [phaseAfter_append_singleton]

theorem phaseAfter_moved_of_ne {j : ι} (other : j ≠ i) :
    phaseAfter j (p.moved engine observers i asked next).moves = phaseAfter j p.moves := by
  rw [moves_moved, Step.moves]
  cases asked.act? (p.session.step engine observers asked).1 with
  | none => simp
  | some act => simp [phaseAfter_append_singleton, other.symm]

end Moved

theorem orderly_start (bodies : ∀ i, Body (R i)) {s : Session σ} : (start bodies s).Orderly where
  follows i := follows_transaction (fun _ => (bodies i).follows) (.inl rfl)
  free _ _ := rfl
  single _ _ busy := absurd rfl busy

namespace Orderly

variable {engine : Engine σ} {observers : List Observer} {p : Pool ι σ R} {i : ι} {asked : Step}
  {next : asked.Answer → Program (Except Failure (R i))}

theorem inTransaction_of_ne_idle (h : p.Orderly) (busy : phaseAfter i p.moves ≠ .idle) :
    p.session.inTransaction = true := by
  cases isOpen : p.session.inTransaction with
  | true => rfl
  | false => exact absurd (h.free isOpen i) busy

theorem allows (h : p.Orderly) (ready : p.tasks i = .ask asked next) :
    (phaseAfter i p.moves).Allows asked := by
  have := h.follows i
  rw [ready] at this
  exact this.1

theorem expects (h : p.Orderly) :
    (phaseAfter i p.moves).Expects asked (p.session.step engine observers asked).1 := by
  cases holds : phaseAfter i p.moves with
  | idle | begins | leaves => trivial
  | holds =>
    cases asked with
    | enterTransaction =>
      exact h.inTransaction_of_ne_idle (i := i) (holds ▸ Phase.noConfusion)
    | execute | hook | leaveTransaction | ledgerKnown | rememberLedger => trivial

theorem follows_next (h : p.Orderly) (ready : p.tasks i = .ask asked next) :
    (next (p.session.step engine observers asked).1).Follows .idle
      ((phaseAfter i p.moves).next asked (p.session.step engine observers asked).1) := by
  have := h.follows i
  rw [ready] at this
  exact this.2 _ h.expects

theorem free_moved (h : p.Orderly) (ready : p.tasks i = .ask asked next)
    (isFree : (p.session.step engine observers asked).2.inTransaction = false) (j : ι) :
    phaseAfter j (p.moved engine observers i asked next).moves = .idle := by
  by_cases same : j = i
  next =>
    subst same
    rw [phaseAfter_moved_self]
    rcases Session.free_of_step isFree with rfl | ⟨wasFree, noEntry⟩
    next => rw [Phase.leaves_of_allows (h.allows ready)]; rfl
    next =>
      rw [h.free wasFree j]
      exact Phase.idle_next noEntry _
  next =>
    rw [phaseAfter_moved_of_ne _ _ _ _ _ _ same]
    rcases Session.free_of_step isFree with rfl | ⟨wasFree, _⟩
    next =>
      have leaves := Phase.leaves_of_allows (h.allows ready)
      by_contra busy
      exact same (h.single j i busy (leaves ▸ Phase.noConfusion))
    next => exact h.free wasFree j

theorem single_moved (h : p.Orderly) {j : ι} (other : j ≠ i) (busy : phaseAfter j p.moves ≠ .idle) :
    phaseAfter i (p.moved engine observers i asked next).moves = .idle := by
  have idle : phaseAfter i p.moves = .idle := by
    by_contra both
    exact other (h.single j i busy both)
  rw [phaseAfter_moved_self, idle]
  -- Whoever enters while the flag is set becomes part of the transaction that is open.
  cases asked with
  | enterTransaction =>
    show Phase.idle.next .enterTransaction p.session.inTransaction = .idle
    rw [h.inTransaction_of_ne_idle busy]
    rfl
  | execute | hook | leaveTransaction | ledgerKnown | rememberLedger => rfl

theorem moved (h : p.Orderly) (ready : p.tasks i = .ask asked next) :
    (p.moved engine observers i asked next).Orderly where
  follows j := by
    by_cases same : j = i
    next =>
      subst same
      rw [tasks_moved_self, phaseAfter_moved_self]
      exact h.follows_next ready
    next =>
      rw [tasks_moved_of_ne _ _ _ _ _ _ same, phaseAfter_moved_of_ne _ _ _ _ _ _ same]
      exact h.follows j
  free isFree := h.free_moved ready isFree
  single j k busy busy' := by
    by_cases first : j = i <;> by_cases second : k = i
    next => rw [first, second]
    next =>
      subst first
      rw [phaseAfter_moved_of_ne _ _ _ _ _ _ second] at busy'
      exact absurd (h.single_moved second busy') busy
    next =>
      subst second
      rw [phaseAfter_moved_of_ne _ _ _ _ _ _ first] at busy
      exact absurd (h.single_moved first busy) busy'
    next =>
      rw [phaseAfter_moved_of_ne _ _ _ _ _ _ first] at busy
      rw [phaseAfter_moved_of_ne _ _ _ _ _ _ second] at busy'
      exact h.single j k busy busy'

theorem turn (h : p.Orderly) (i : ι) : (p.turn engine observers i).Orderly := by
  cases ready : p.tasks i with
  | done result => rwa [turn_of_done ready]
  | ask asked next =>
    rw [turn_of_ask ready]
    exact h.moved ready

theorem isCalm_of_ne (h : p.Orderly) (ready : p.tasks i = .ask asked next) {j : ι} (other : j ≠ i)
    (busy : phaseAfter j p.moves ≠ .idle) {act : Act}
    (did : asked.act? (p.session.step engine observers asked).1 = some act) : act.IsCalm := by
  have idle : phaseAfter i p.moves = .idle := by
    by_contra both
    exact other (h.single j i busy both)
  have allowed := h.allows ready
  rw [idle] at allowed
  exact Step.isCalm_of_isInner allowed did

end Orderly

/-- However the turns are taken, at most one task at a time has a transaction of the connection to
end, and only while the flag is set. -/
theorem orderly_run (engine : Engine σ) (observers : List Observer) (bodies : ∀ i, Body (R i))
    (s : Session σ) (schedule : List ι) :
    ((start bodies s).run engine observers schedule).Orderly :=
  run_of_turn Orderly (fun _ i h => h.turn i) schedule (orderly_start bodies)

end Pool

end Exclusion

end OracleSql
