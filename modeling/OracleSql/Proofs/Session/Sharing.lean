import OracleSql.Proofs.Session.Interleaving

set_option autoImplicit false

namespace OracleSql

def Act.hook? : Act → Option Hook
  | .hook h true => some h
  | _ => none

theorem Act.IsCalm.hook?_eq_none {act : Act} (calm : act.IsCalm) : act.hook? = none := by
  cases act with
  | entered | statement => rfl
  | left | hook => cases calm

section Connection

variable {ι : Type}

def openAfter (isOpen : Bool) (m : Move ι) : Bool :=
  match m.act.hook? with
  | some .begin => true
  | some _ => false
  | none => isOpen

def opened (moves : List (Move ι)) : Bool :=
  moves.foldl openAfter false

/-- The hook that decides about a statement before it. If `carries`, a transaction that begins goes
on with what is left of one whose end was refused. -/
def Move.settles? (carries : Bool) (m : Move ι) : Option Hook :=
  match m.act.hook? with
  | some .begin => if carries then none else some .begin
  | hook => hook

/-- What is done in a transaction takes effect if it is committed, and otherwise it is undone. -/
def TakesEffect (carries : Bool) (before after : List (Move ι)) : Prop :=
  opened before = true → after.findSome? (Move.settles? carries) = some .commit

theorem opened_append_cons_begin (i : ι) (before : List (Move ι)) {during : List (Move ι)}
    (calm : ∀ m ∈ during, m.act.IsCalm) :
    opened (before ++ ⟨i, .hook .begin true⟩ :: during) = true := by
  rw [opened, List.foldl_append, List.foldl_cons]
  show during.foldl openAfter true = true
  induction during with
  | nil => rfl
  | cons m rest ih =>
    obtain ⟨first, others⟩ := List.forall_mem_cons.1 calm
    rw [List.foldl_cons, openAfter, first.hook?_eq_none]
    exact ih others

theorem findSome?_settles?_of_calm (carries : Bool) {during : List (Move ι)}
    (calm : ∀ m ∈ during, m.act.IsCalm) : during.findSome? (Move.settles? carries) = none := by
  refine List.findSome?_eq_none_iff.2 fun m member => ?_
  rw [Move.settles?, (calm m member).hook?_eq_none]

theorem takesEffect_iff (carries : Bool) (i : ι) (before : List (Move ι))
    {first second : List (Move ι)} (after : List (Move ι)) {h : Hook} (ending : h ≠ .begin)
    (accepted : Bool) (calm : ∀ m ∈ first ++ second, m.act.IsCalm) :
    TakesEffect carries (before ++ ⟨i, .hook .begin true⟩ :: first)
        (second ++ ⟨i, .hook h accepted⟩ :: after) ↔
      (if accepted then some h else after.findSome? (Move.settles? carries)) = some .commit := by
  obtain ⟨calmFirst, calmSecond⟩ := List.forall_mem_append.1 calm
  rw [TakesEffect, opened_append_cons_begin i before calmFirst, List.findSome?_append,
    findSome?_settles?_of_calm carries calmSecond, Option.none_or, List.findSome?_cons]
  cases accepted with
  | false => simp [Move.settles?, Act.hook?]
  | true =>
    cases h with
    | begin => exact absurd rfl ending
    | commit | rollback => simp [Move.settles?, Act.hook?]

theorem findSome?_settles?_of_begin {after : List (Move ι)}
    (fresh : after.findSome? (·.act.hook?) = some .begin ∨ after.findSome? (·.act.hook?) = none) :
    after.findSome? (Move.settles? false) ≠ some .commit := by
  have same : Move.settles? (ι := ι) false = fun m => m.act.hook? := by
    funext m
    rw [Move.settles?]
    split
    next found => exact found.symm
    next => rfl
  rw [same]
  rcases fresh with found | found
  next => simp [found]
  next => simp [found]

def Silent (i : ι) (moves : List (Move ι)) : Prop :=
  ∀ m ∈ moves, m.task = i → ¬ m.act.IsStatement

theorem Silent.append {i : ι} {a b : List (Move ι)} (ha : Silent i a) (hb : Silent i b) :
    Silent i (a ++ b) :=
  List.forall_mem_append.2 ⟨ha, hb⟩

theorem silent_moves_of_ne {i j : ι} (other : j ≠ i) (asked : Step) (answer : asked.Answer) :
    Silent i (asked.moves answer j) :=
  fun _ member own => absurd ((Step.of_mem_moves member).1.symm.trans own) other

/-- What has happened around and within the transaction of one task. -/
structure Window (i : ι) where
  before : List (Move ι)
  during : List (Move ι)
  silent : Silent i before
  calm : ∀ m ∈ during, m.act.IsCalm

namespace Window

variable {i : ι}

def moves (w : Window i) : List (Move ι) :=
  w.before ++ ⟨i, .hook .begin true⟩ :: w.during

def extend (w : Window i) (more : List (Move ι)) (calm : ∀ m ∈ more, m.act.IsCalm) : Window i :=
  ⟨w.before, w.during ++ more, w.silent, List.forall_mem_append.2 ⟨w.calm, calm⟩⟩

theorem moves_extend (w : Window i) (more : List (Move ι)) (calm : ∀ m ∈ more, m.act.IsCalm) :
    (w.extend more calm).moves = w.moves ++ more := by
  simp [moves, extend]

end Window

end Connection

section Stages

variable {ι σ : Type} [DecidableEq ι] {R : ι → Type}

def firstAct (i : ι) (moves : List (Move ι)) : Option Act :=
  (moves.find? (·.task = i)).map Move.act

theorem firstAct_append (i : ι) (a b : List (Move ι)) :
    firstAct i (a ++ b) = (firstAct i a).or (firstAct i b) := by
  simp [firstAct, Option.map_or]

theorem firstAct_moves_of_ne {i j : ι} (other : j ≠ i) (asked : Step) (answer : asked.Answer) :
    firstAct i (asked.moves answer j) = none := by
  rw [firstAct, Option.map_eq_none_iff, List.find?_eq_none]
  intro m member own
  exact other ((Step.of_mem_moves member).1.symm.trans (of_decide_eq_true own))

theorem silent_of_firstAct_eq_none {i : ι} {moves : List (Move ι)} (h : firstAct i moves = none) :
    Silent i moves := by
  rw [firstAct, Option.map_eq_none_iff, List.find?_eq_none] at h
  exact fun m member own => absurd (decide_eq_true own) (h m member)

def Program.Leaves {α : Type} (p : Program α) (a : α) : Prop :=
  p = .ask .leaveTransaction (fun _ => .done a) ∨ p = .done a

-- Whatever the connection is asked next for a transaction is to begin one.
def Anew (moves after : List (Move ι)) : Prop :=
  after.findSome? (·.act.hook?) = some .begin ∨
    after.findSome? (·.act.hook?) = none ∧ ∀ j, phaseAfter j moves ≠ .holds

inductive Stage (p : Pool ι σ R) (i : ι) : Prop where
  | waiting {body : Body (R i)} (left : p.tasks i = (transaction body.action).run)
      (unmoved : firstAct i p.moves = none)
  | joined (first : firstAct i p.moves = some (.entered true))
  | opening {body : Body (R i)} (left : p.tasks i = OracleSql.opening body.action)
      (silent : Silent i p.moves)
  | refused {e : EngineError} (left : (p.tasks i).Leaves (.error (.engine e)))
      (silent : Silent i p.moves) (begin : ⟨i, .hook .begin false⟩ ∈ p.moves)
  | working {q : Program (Except Failure (R i))} (w : Window i)
      (left : p.tasks i = q >>= closing) (joins : q.Joins) (moves : p.moves = w.moves)
      (holds : phaseAfter i p.moves = .holds)
  | ended {result : Except Failure (R i)} {reply : Except EngineError Unit} (w : Window i)
      (after : List (Move ι))
      (left : (p.tasks i).Leaves (finish result (Action.engineResult reply)))
      (moves : p.moves = w.moves ++ ⟨i, .hook (hookAfter result) reply.isOk⟩ :: after)
      (silent : Silent i after) (anew : Anew p.moves after)

theorem Phase.begins_of_hook? {phase : Phase} {asked : Step} {answer : asked.Answer} {act : Act}
    {h : Hook} (allowed : phase.Allows asked) (free : phase ≠ .holds)
    (did : asked.act? answer = some act) (took : act.hook? = some h) :
    phase = .begins ∧ act = .hook .begin true := by
  cases asked with
  | execute | enterTransaction | leaveTransaction => cases did; cases took
  | ledgerKnown | rememberLedger => cases did
  | hook asked =>
    cases did
    cases phase with
    | begins =>
      cases allowed
      cases reply : Except.isOk answer with
      | true => exact ⟨rfl, rfl⟩
      | false =>
        rw [reply] at took
        cases took
    | holds => exact absurd rfl free
    | idle | leaves => cases allowed

theorem Phase.after_ne_holds {phase : Phase} {act : Act} (free : phase ≠ .holds)
    (none : act.hook? = none) : phase.after act ≠ .holds := by
  cases phase with
  | holds => exact absurd rfl free
  | idle =>
    cases act with
    | entered wasOpen => cases wasOpen <;> exact Phase.noConfusion
    | left | statement | hook => exact Phase.noConfusion
  | leaves => cases act <;> exact Phase.noConfusion
  | begins =>
    cases act with
    | hook h accepted =>
      cases accepted with
      | true => cases none
      | false => exact Phase.noConfusion
    | entered | left | statement => exact Phase.noConfusion

section Moved

variable {engine : Engine σ} {observers : List Observer} {p : Pool ι σ R} {i j : ι}

section Step

variable {asked : Step} {next : asked.Answer → Program (Except Failure (R j))}

theorem Pool.Orderly.moves_of_nobody (h : p.Orderly) (ready : p.tasks j = .ask asked next)
    (nobody : ∀ k, phaseAfter k p.moves ≠ .holds) :
    ((∀ m ∈ asked.moves (p.session.step engine observers asked).1 j, m.act.hook? = none) ∧
        ∀ k, phaseAfter k (p.moved engine observers j asked next).moves ≠ .holds) ∨
      asked.moves (p.session.step engine observers asked).1 j = [⟨j, .hook .begin true⟩] ∧
        phaseAfter j (p.moved engine observers j asked next).moves = .holds := by
  have own := Pool.phaseAfter_moved_self engine observers p j asked next
  rw [Phase.next] at own
  have free (quiet : phaseAfter j (p.moved engine observers j asked next).moves ≠ .holds) (k : ι) :
      phaseAfter k (p.moved engine observers j asked next).moves ≠ .holds := by
    by_cases same : k = j
    next => rwa [same]
    next =>
      rw [Pool.phaseAfter_moved_of_ne _ _ _ _ _ _ same]
      exact nobody k
  rw [Step.moves]
  cases did : asked.act? (p.session.step engine observers asked).1 with
  | none =>
    rw [did] at own
    exact .inl ⟨List.forall_mem_nil _, free (own ▸ nobody j)⟩
  | some act =>
    rw [did] at own
    cases took : act.hook? with
    | none =>
      exact .inl ⟨List.forall_mem_singleton.2 took, free (own ▸ Phase.after_ne_holds (nobody j) took)⟩
    | some hook =>
      obtain ⟨begins, rfl⟩ := Phase.begins_of_hook? (h.allows ready) (nobody j) did took
      rw [begins] at own
      exact .inr ⟨rfl, own⟩

theorem Anew.moved {after : List (Move ι)} (h : p.Orderly) (ready : p.tasks j = .ask asked next)
    (anew : Anew p.moves after) : Anew (p.moved engine observers j asked next).moves
      (after ++ asked.moves (p.session.step engine observers asked).1 j) := by
  rcases anew with begins | ⟨none, nobody⟩
  next => exact .inl (by rw [List.findSome?_append, begins]; rfl)
  next =>
    rw [Anew, List.findSome?_append, none, Option.none_or, List.findSome?_eq_none_iff]
    rcases h.moves_of_nobody ready nobody with quiet | ⟨begins, -⟩
    next => exact .inr quiet
    next => exact .inl (by rw [begins]; rfl)

theorem Stage.moved_of_ne (h : p.Orderly) (ready : p.tasks j = .ask asked next) (other : j ≠ i)
    (stage : Stage p i) : Stage (p.moved engine observers j asked next) i := by
  have same := Pool.tasks_moved_of_ne engine observers p j asked next other.symm
  have silent := silent_moves_of_ne other asked (p.session.step engine observers asked).1
  cases stage with
  | waiting left unmoved =>
    refine .waiting (same.trans left) ?_
    rw [Pool.moves_moved, firstAct_append, unmoved, firstAct_moves_of_ne other]
    rfl
  | joined first =>
    refine .joined ?_
    rw [Pool.moves_moved, firstAct_append, first]
    rfl
  | opening left quiet => exact .opening (same.trans left) (quiet.append silent)
  | refused left quiet begin =>
    rw [← same] at left
    exact .refused left (quiet.append silent) (List.mem_append_left _ begin)
  | working w left joins moves holds =>
    have busy : phaseAfter i p.moves ≠ .idle := holds ▸ Phase.noConfusion
    -- What another task does in the meantime becomes part of the transaction.
    refine .working (w.extend (asked.moves (p.session.step engine observers asked).1 j) ?_)
      (same.trans left) joins ?_ ?_
    next =>
      intro m member
      exact h.isCalm_of_ne ready other.symm busy (Step.of_mem_moves member).2
    next => rw [Window.moves_extend, ← moves]; rfl
    next => exact (Pool.phaseAfter_moved_of_ne _ _ _ _ _ _ other.symm).trans holds
  | ended w after left moves quiet anew =>
    rw [← same] at left
    refine .ended w _ left ?_ (quiet.append silent) (anew.moved h ready)
    rw [Pool.moves_moved, moves, List.append_assoc]
    rfl

end Step

theorem Stage.moved_begin (h : p.Orderly) {next : Except EngineError Unit → _}
    (ready : p.tasks i = .ask (.hook .begin) next) {body : Body (R i)}
    (left : p.tasks i = OracleSql.opening body.action) (silent : Silent i p.moves) :
    Stage (p.moved engine observers i (.hook .begin) next) i := by
  have begins := Phase.begins_of_allows (h.allows ready)
  have own := Pool.tasks_moved_self engine observers p i (.hook .begin) next
  have phase := Pool.phaseAfter_moved_self engine observers p i (.hook .begin) next
  have moves := Pool.moves_moved engine observers p i (.hook .begin) next
  rw [left] at ready
  cases ready
  rw [begins] at phase
  cases reply : (p.session.step engine observers (.hook .begin)).1 with
  | error e =>
    rw [reply] at own moves
    refine .refused (.inl own) ?_ ?_
    next =>
      rw [moves]
      exact silent.append (List.forall_mem_singleton.2 fun _ => not_false)
    next =>
      rw [moves]
      exact List.mem_append_right _ List.mem_cons_self
  | ok =>
    rw [reply] at own moves phase
    exact .working ⟨p.moves, [], silent, List.forall_mem_nil _⟩ own body.joins moves phase

theorem Pool.Orderly.ne_holds_of_end (h : p.Orderly) (holds : phaseAfter i p.moves = .holds)
    (ending : Hook) (next : Except EngineError Unit → Program (Except Failure (R i))) (j : ι) :
    phaseAfter j (p.moved engine observers i (.hook ending) next).moves ≠ .holds := by
  by_cases same : j = i
  next =>
    rw [same, Pool.phaseAfter_moved_self, holds]
    exact Phase.noConfusion
  next =>
    rw [Pool.phaseAfter_moved_of_ne _ _ _ _ _ _ same]
    intro both
    exact same (h.single j i (both ▸ Phase.noConfusion) (holds ▸ Phase.noConfusion))

theorem Stage.moved_end (h : p.Orderly) {result : Except Failure (R i)}
    {next : Except EngineError Unit → _}
    (ready : p.tasks i = .ask (.hook (hookAfter result)) next) (left : p.tasks i = closing result)
    (w : Window i) (moves : p.moves = w.moves) (holds : phaseAfter i p.moves = .holds) :
    Stage (p.moved engine observers i (.hook (hookAfter result)) next) i := by
  have own := Pool.tasks_moved_self engine observers p i (.hook (hookAfter result)) next
  have nobody (j : ι) : phaseAfter j
      (p.moved engine observers i (.hook (hookAfter result)) next).moves ≠ .holds :=
    h.ne_holds_of_end holds (hookAfter result) next j
  rw [left, closing_eq] at ready
  cases ready
  refine .ended w [] (.inl own) ?_ (List.forall_mem_nil _) (.inr ⟨rfl, nobody⟩)
  rw [Pool.moves_moved, moves]
  rfl

theorem Stage.moved_enter {next : Bool → _} (ready : p.tasks i = .ask .enterTransaction next)
    {body : Body (R i)} (left : p.tasks i = (transaction body.action).run)
    (unmoved : firstAct i p.moves = none) :
    Stage (p.moved engine observers i .enterTransaction next) i := by
  have own := Pool.tasks_moved_self engine observers p i .enterTransaction next
  have moves := Pool.moves_moved engine observers p i .enterTransaction next
  rw [left, run_transaction] at ready
  cases ready
  rw [show (p.session.step engine observers .enterTransaction).1 = p.session.inTransaction from rfl]
    at own moves
  cases isOpen : p.session.inTransaction with
  | true =>
    rw [isOpen] at moves
    refine .joined ?_
    rw [moves, firstAct_append, unmoved]
    simp [firstAct, Step.moves, Step.act?]
  | false =>
    rw [isOpen] at own moves
    refine .opening own ?_
    rw [moves]
    exact (silent_of_firstAct_eq_none unmoved).append (List.forall_mem_singleton.2 fun _ => not_false)

theorem Stage.moved_inner (h : p.Orderly) {asked : Step} {next : asked.Answer → _}
    (joins : (Program.ask asked next).Joins) (w : Window i) (moves : p.moves = w.moves)
    (holds : phaseAfter i p.moves = .holds) :
    Stage (p.moved engine observers i asked fun answer => next answer >>= closing) i := by
  have fits : (phaseAfter i p.moves).Expects asked (p.session.step engine observers asked).1 :=
    h.expects
  rw [holds] at fits
  refine .working (w.extend (asked.moves (p.session.step engine observers asked).1 i) ?_)
    (Pool.tasks_moved_self ..) (joins.2 _ fits) ?_ ?_
  next =>
    intro m member
    exact Step.isCalm_of_isInner joins.1 (Step.of_mem_moves member).2
  next => rw [Window.moves_extend, ← moves]; rfl
  next => rw [Pool.phaseAfter_moved_self, holds, Phase.holds_next joins.1]

theorem Stage.moved_self (h : p.Orderly) {asked : Step} {next : asked.Answer → _}
    (ready : p.tasks i = .ask asked next) (stage : Stage p i) :
    Stage (p.moved engine observers i asked next) i := by
  have left {a : Except Failure (R i)} (leaves : (p.tasks i).Leaves a) :
      asked = .leaveTransaction ∧ (p.moved engine observers i asked next).tasks i = .done a := by
    rw [Pool.tasks_moved_self]
    rcases leaves with leaving | finished
    next => rw [leaving] at ready; cases ready; exact ⟨rfl, rfl⟩
    next => rw [finished] at ready; cases ready
  have silent : Silent i [⟨i, .left⟩] := List.forall_mem_singleton.2 fun _ => not_false
  cases stage with
  | waiting waits unmoved =>
    have same := ready
    rw [waits, run_transaction] at same
    cases same
    exact moved_enter ready waits unmoved
  | joined first =>
    refine .joined ?_
    rw [Pool.moves_moved, firstAct_append, first]
    rfl
  | opening opens quiet =>
    have same := ready
    rw [opens] at same
    cases same
    exact moved_begin h ready opens quiet
  | refused leaves quiet begin =>
    obtain ⟨rfl, finished⟩ := left leaves
    exact .refused (.inr finished) (quiet.append silent) (List.mem_append_left _ begin)
  | @working q w works joins moves holds =>
    have same := ready
    rw [works] at same
    cases q with
    | done result =>
      cases same
      exact moved_end h ready works w moves holds
    | ask =>
      cases same
      exact moved_inner h joins w moves holds
  | ended w after leaves moves quiet anew =>
    obtain ⟨rfl, finished⟩ := left leaves
    refine .ended w _ (.inr finished) ?_ (quiet.append silent) (anew.moved h ready)
    rw [Pool.moves_moved, moves, List.append_assoc]
    rfl

end Moved

theorem Stage.turn {engine : Engine σ} {observers : List Observer} {p : Pool ι σ R} {i : ι}
    (h : p.Orderly) (stage : Stage p i) (j : ι) : Stage (p.turn engine observers j) i := by
  cases ready : p.tasks j with
  | done result => rwa [Pool.turn_of_done ready]
  | ask asked next =>
    rw [Pool.turn_of_ask ready]
    by_cases same : j = i
    next => subst same; exact stage.moved_self h ready
    next => exact stage.moved_of_ne h ready same

theorem stage_run (engine : Engine σ) (observers : List Observer) (bodies : ∀ i, Body (R i))
    (s : Session σ) (schedule : List ι) (i : ι) :
    Stage ((Pool.start bodies s).run engine observers schedule) i := by
  refine (Pool.run_of_turn (fun p => p.Orderly ∧ Stage p i) ?_ schedule ?_).2
  next => exact fun p j h => ⟨h.1.turn j, h.2.turn h.1 j⟩
  next => exact ⟨Pool.orderly_start bodies, .waiting rfl rfl⟩

/-- What a task's own transaction has come to: either it has not begun, or it has a beginning and an
end, and all its statements lie in between. What succeeds there, of whatever task, takes effect if
the task has succeeded, and else does not, except where the end was refused and what is left of the
transaction is carried over. -/
inductive Decided (carries : Bool) (moves : List (Move ι)) (i : ι) {α : Type} :
    Except Failure α → Prop where
  | refused {e : EngineError} (begin : ⟨i, .hook .begin false⟩ ∈ moves) (silent : Silent i moves) :
      Decided carries moves i (.error (.engine e))
  | settled {result : Except Failure α} (w : Window i) (h : Hook) (accepted : Bool)
      (after : List (Move ι)) (moved : moves = w.moves ++ ⟨i, .hook h accepted⟩ :: after)
      (silent : Silent i after)
      (fate : ∀ first second j sql params,
        w.during = first ++ ⟨j, .statement sql params true⟩ :: second →
          (result.isOk = true → TakesEffect carries (w.before ++ ⟨i, .hook .begin true⟩ :: first)
            (second ++ ⟨i, .hook h accepted⟩ :: after)) ∧
          (result.isOk = false → TakesEffect carries (w.before ++ ⟨i, .hook .begin true⟩ :: first)
            (second ++ ⟨i, .hook h accepted⟩ :: after) → carries = true ∧ accepted = false)) :
      Decided carries moves i result

theorem isOk_finish {α : Type} (result : Except Failure α) (reply : Except EngineError Unit) :
    (finish result (Action.engineResult reply)).isOk = (result.isOk && reply.isOk) := by
  cases result <;> cases reply <;> rfl

theorem hookAfter_eq_commit_iff {α : Type} (result : Except Failure α) :
    hookAfter result = .commit ↔ result.isOk = true := by
  cases result <;> simp [hookAfter, Except.isOk, Except.toBool]

/-- However the tasks are interleaved, and whatever fails, a call that has found no transaction open
and has come to its result has decided about its statements, and about all that the other tasks did
between its begin and its end. -/
theorem Pool.decided_run (carries : Bool) (engine : Engine σ) (observers : List Observer)
    (bodies : ∀ i, Body (R i)) (s : Session σ) (schedule : List ι) (i : ι)
    {result : Except Failure (R i)}
    (found : firstAct i ((start bodies s).run engine observers schedule).moves =
      some (.entered false))
    (finished : ((start bodies s).run engine observers schedule).tasks i = .done result) :
    Decided carries ((start bodies s).run engine observers schedule).moves i result := by
  have result_eq {a : Except Failure (R i)}
      (left : (((start bodies s).run engine observers schedule).tasks i).Leaves a) : result = a := by
    rw [finished] at left
    rcases left with leaving | done
    next => cases leaving
    next => cases done; rfl
  cases stage_run engine observers bodies s schedule i with
  | waiting left unmoved => rw [found] at unmoved; cases unmoved
  | joined first => rw [found] at first; cases first
  | opening left silent => rw [finished] at left; cases left
  | @working q w left joins moves holds =>
    rw [finished] at left
    cases q <;> cases left
  | refused left silent begin =>
    rw [result_eq left]
    exact .refused begin silent
  | @ended worked reply w after left moves silent anew =>
    rw [result_eq left]
    refine .settled w (hookAfter worked) reply.isOk after moves silent ?_
    intro first second j sql params split
    have calm := w.calm
    rw [split, List.forall_mem_append, List.forall_mem_cons] at calm
    have within := List.forall_mem_append.2 ⟨calm.1, calm.2.2⟩
    rw [takesEffect_iff carries i _ _ (hookAfter_ne_begin worked) _ within, isOk_finish]
    cases accepted : reply.isOk with
    | true => simp [hookAfter_eq_commit_iff]
    | false =>
      refine ⟨by simp, fun _ settled => ⟨?_, rfl⟩⟩
      cases carries with
      | true => rfl
      | false => exact absurd settled (findSome?_settles?_of_begin (anew.imp_right And.left))

end Stages

def rivals (fails : Bool) : Bool → Body Unit
  | false => .andThen (.work (Action.perform "DELETE FROM \"a\"") (.perform trivial)) fun _ =>
      .work (if fails then throw (.state (.other "boom")) else pure ()) (.ite trivial trivial)
  | true => .work (Action.perform "DELETE FROM \"b\"") (.perform trivial)

-- The second task comes in after the first has begun its transaction.
def rivalry (fails : Bool) : Pool Bool Script fun _ => Unit :=
  (Pool.start (rivals fails) (Session.start .empty)).run Script.engine []
    [false, false, true, true, false, false, false]

theorem decided_rivalry :
    firstAct false (rivalry false).moves = some (.entered false) ∧
      (rivalry false).tasks false = .done (.ok ()) ∧
      Decided false (rivalry false).moves false (.ok () : Except Failure Unit) :=
  ⟨rfl, rfl, Pool.decided_run false _ _ _ _ _ _ rfl rfl⟩

def reluctant : Engine Bool where
  execute _ _ tried := (.ok [], tried)
  hook h tried :=
    if h = .commit ∧ tried = false then
      (.error ⟨"ORA-01013: user requested cancel of current operation"⟩, true)
    else (.ok (), tried)

def reluctance : Pool Bool Bool fun _ => Unit :=
  (Pool.start (rivals false) (Session.start false)).run reluctant []
    (List.replicate 5 false ++ List.replicate 5 true)

-- A task that has joined the transaction of another may succeed with a statement that is undone.
-- One whose commit was refused fails with a statement that another may take over and commit.
theorem joining_loses :
    ((rivalry true).tasks true = .done (.ok ()) ∧
      ∃ before after, (rivalry true).moves =
          before ++ ⟨true, .statement "DELETE FROM \"b\"" [] true⟩ :: after ∧
        ∀ carries, ¬ TakesEffect carries before after) ∧
    reluctance.tasks false =
        .done (.error (.engine ⟨"ORA-01013: user requested cancel of current operation"⟩)) ∧
      ∃ before after, reluctance.moves =
          before ++ ⟨false, .statement "DELETE FROM \"a\"" [] true⟩ :: after ∧
        opened before = true ∧ TakesEffect true before after := by
  refine ⟨⟨rfl, [_, _, _], _, rfl, fun carries took => ?_⟩, rfl, [_, _], _, rfl, rfl, fun _ => rfl⟩
  cases carries <;> cases took rfl

end OracleSql
