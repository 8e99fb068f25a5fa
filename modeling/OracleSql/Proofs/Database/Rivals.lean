import OracleSql.Proofs.Database.Race
import OracleSql.Proofs.Database.Sequence

set_option autoImplicit false

namespace OracleSql

theorem Catalog.run_has (kind : ObjectKind) (n : ObjectName) : ∃ next,
    (has kind n).run =
      .ask (.execute (countText n kind) (.text n.name :: ownerParams n) none) next ∧
    ∀ rows count, countOf? rows = some count →
      next (.ok rows) = .done (.ok (decide (0 < count))) := by
  refine ⟨_, rfl, fun rows count counted => ?_⟩
  show (ExceptT.run (Action.expect (countOf? rows) .noCount >>= _) >>= _ : Program _) = _
  rw [counted]
  rfl

namespace Identity

def draw (sequence : String) : Action Int := do
  let rows ← Action.execute (nextText sequence) [] none
  Action.expect (rows.head?.bind fun row => row.int? "resultId") (.sequenceWithoutValue sequence)

def createAndDraw (sequence : String) : Action Int := do
  Action.perform (createText sequence)
  draw sequence

def lookAndDraw (sequence : String) : Action Int := do
  if ← Catalog.has .sequence ⟨none, sequence⟩ then draw sequence else createAndDraw sequence

theorem next_eq {options : Options} (unset : options.schema = none) (entity column : String) :
    next options entity column = lookAndDraw (sequence options entity column) := by
  rw [next, ensure, lookAndDraw, unset, bind_assoc]
  refine congrArg _ (funext fun there => ?_)
  cases there with
  | true => rfl
  | false =>
    have apply : (SchemaChange.createSequence (sequence options entity column)).apply =
        Action.perform (createText (sequence options entity column)) :=
      SchemaChange.apply_eq_perform rfl
    simp only [Bool.false_eq_true, if_false, apply]
    rfl

theorem run_draw (sequence : String) :
    (draw sequence).run = .ask (.execute (nextText sequence) [] none) fun
      | .ok rows => (Action.expect (rows.head?.bind fun row => row.int? "resultId")
          (.sequenceWithoutValue sequence)).run
      | .error e => .done (.error (.engine e)) := by
  refine congrArg (Program.ask (.execute (nextText sequence) [] none)) (funext fun reply => ?_)
  cases reply <;> rfl

theorem run_createAndDraw (sequence : String) :
    (createAndDraw sequence).run = .ask (.execute (createText sequence) [] none) fun
      | .ok _ => (draw sequence).run
      | .error e => .done (.error (.engine e)) := by
  refine congrArg (Program.ask (.execute (createText sequence) [] none)) (funext fun reply => ?_)
  cases reply <;> rfl

theorem run_lookAndDraw (sequence : String) : ∃ next,
    (lookAndDraw sequence).run =
      .ask (.execute (Catalog.countText ⟨none, sequence⟩ .sequence) [.text sequence] none) next ∧
    ∀ rows count, Catalog.countOf? rows = some count →
      next (.ok rows) = if 0 < count then (draw sequence).run else (createAndDraw sequence).run := by
  obtain ⟨next, asks, replies⟩ := Catalog.run_has .sequence ⟨none, sequence⟩
  refine ⟨_, by rw [lookAndDraw, ExceptT.run_bind, asks]; rfl, fun rows count counted => ?_⟩
  simp only [replies rows count counted]
  by_cases there : 0 < count
  next =>
    simp only [there]
    rfl
  next =>
    simp only [there]
    rfl

end Identity

def EngineError.isNameTaken (e : EngineError) : Bool :=
  containsText "ORA-00955".toList e.message.toList

/-- The sequence of one name, whose values come in their order from one on. -/
structure CountsUp {σ : Type} (engine : Engine σ) (sequence : String) (upcoming : σ → Option Int) :
    Prop where
  looks : ∀ x, ∃ rows y count,
    engine.execute (Catalog.countText ⟨none, sequence⟩ .sequence) [.text sequence] x = (.ok rows, y) ∧
      upcoming y = upcoming x ∧ Catalog.countOf? rows = some count ∧
      (0 < count ↔ (upcoming x).isSome = true)
  creates : ∀ x, upcoming x = none → ∃ rows y,
    engine.execute (Identity.createText sequence) [] x = (.ok rows, y) ∧ upcoming y = some 1
  refuses : ∀ x n, upcoming x = some n → ∃ e y,
    engine.execute (Identity.createText sequence) [] x = (.error e, y) ∧ upcoming y = some n ∧
      e.isNameTaken = true
  draws : ∀ x n, upcoming x = some n → Text.int64.holds n = true → ∃ rows y,
    engine.execute (Identity.nextText sequence) [] x = (.ok rows, y) ∧ upcoming y = some (n + 1) ∧
      (rows.head?.bind fun row => row.int? "resultId") = some n

/-- Each client has a session and a program of its own, but the engine is the same for all. -/
structure Rivals (ι σ : Type) where
  engine : σ
  sessions : ι → Session σ
  programs : ι → Program (Except Failure Int)

namespace Rivals

section Turns

variable {ι σ : Type} [DecidableEq ι] (engine : Engine σ) (observers : ι → List Observer)

def moved (r : Rivals ι σ) (i : ι) (asked : Step)
    (next : asked.Answer → Program (Except Failure Int)) : Rivals ι σ :=
  -- What the others did to the database is there for this client.
  let (answer, session) := { r.sessions i with engine := r.engine }.step engine (observers i) asked
  ⟨session.engine, Function.update r.sessions i session, Function.update r.programs i (next answer)⟩

def turn (r : Rivals ι σ) (i : ι) : Rivals ι σ :=
  match r.programs i with
  | .done _ => r
  | .ask asked next => r.moved engine observers i asked next

def run (schedule : List ι) (r : Rivals ι σ) : Rivals ι σ :=
  schedule.foldl (turn engine observers) r

def start (x : σ) (sessions : ι → Session σ) (options : ι → Options) (entity column : String) :
    Rivals ι σ :=
  ⟨x, sessions, fun i => (Identity.next (options i) entity column).run⟩

variable {engine : Engine σ} {observers : ι → List Observer} {r : Rivals ι σ} {i j : ι}

theorem turn_of_done {result : Except Failure Int} (finished : r.programs i = .done result) :
    r.turn engine observers i = r := by
  rw [turn, finished]

theorem programs_turn_of_ne (other : j ≠ i) :
    (r.turn engine observers i).programs j = r.programs j := by
  unfold turn
  split
  next => rfl
  next => exact Function.update_of_ne other ..

theorem turn_of_execute (passive : ∀ o ∈ observers i, o.IsPassive) {sql : String}
    {params : List Value} {next : Except EngineError (List Row) → Program (Except Failure Int)}
    (ready : r.programs i = .ask (.execute sql params none) next)
    {reply : Except EngineError (List Row)} {y : σ}
    (replies : engine.execute sql params r.engine = (reply, y)) :
    (r.turn engine observers i).engine = y ∧
      (r.turn engine observers i).programs i = next reply := by
  let session : Session σ := { r.sessions i with engine := r.engine }
  have told : (session.execute engine (observers i) ⟨sql, params, none⟩).1 = reply :=
    (Session.execute_fst_of_isPassive passive rfl session).trans (congrArg Prod.fst replies)
  have reached : (session.execute engine (observers i) ⟨sql, params, none⟩).2.engine = y :=
    (Session.execute_engine _ session).trans (congrArg Prod.snd replies)
  rw [turn, ready]
  refine ⟨reached, ?_⟩
  simp only [moved, Function.update_self]
  exact congrArg next told

end Turns

end Rivals

def Race.Stage.Is (sequence : String) : Race.Stage → Program (Except Failure Int) → Prop
  | .looks, p => p = (Identity.lookAndDraw sequence).run
  | .creates, p => p = (Identity.createAndDraw sequence).run
  | .draws, p => p = (Identity.draw sequence).run
  | .drew n, p => p = .done (.ok n)
  | .refused, p => ∃ e, p = .done (.error (.engine e)) ∧ e.isNameTaken = true

theorem Race.Stage.Is.done_of_left {sequence : String} {stage : Race.Stage}
    {p : Program (Except Failure Int)} (h : stage.Is sequence p) (ended : stage.left = 0) :
    ∃ result, p = .done result := by
  cases stage with
  | looks | creates | draws => cases ended
  | drew n => exact ⟨_, h⟩
  | refused =>
    obtain ⟨e, refused, -⟩ := h
    exact ⟨_, refused⟩

theorem Race.Stage.Is.of_done {sequence : String} {stage : Race.Stage} {result : Except Failure Int}
    (h : stage.Is sequence (.done result)) :
    (∃ n, stage = .drew n ∧ result = .ok n) ∨
      stage = .refused ∧ ∃ e, result = .error (.engine e) ∧ e.isNameTaken = true := by
  cases stage with
  | looks =>
    obtain ⟨next, asks, -⟩ := Identity.run_lookAndDraw sequence
    cases h.trans asks
  | creates => cases h.trans (Identity.run_createAndDraw sequence)
  | draws => cases h.trans (Identity.run_draw sequence)
  | drew n => exact .inl ⟨n, rfl, Program.done.inj h⟩
  | refused =>
    obtain ⟨e, finished, taken⟩ := h
    exact .inr ⟨rfl, e, Program.done.inj finished, taken⟩

namespace Rivals

section Simulation

variable {ι σ : Type} {sequence : String} {upcoming : σ → Option Int} {r : Rivals ι σ}
  {race : Race ι} {i : ι}

structure Shows (sequence : String) (upcoming : σ → Option Int) (race : Race ι)
    (r : Rivals ι σ) : Prop where
  upcoming : upcoming r.engine = race.upcoming
  stages : ∀ i, (race.stages i).Is sequence (r.programs i)

theorem shows_start {options : ι → Options} {entity column : String}
    (unset : ∀ i, (options i).schema = none)
    (same : ∀ i, Identity.sequence (options i) entity column = sequence) {x : σ}
    (missing : upcoming x = none) (sessions : ι → Session σ) :
    (start x sessions options entity column).Shows sequence upcoming Race.start where
  upcoming := missing
  stages i := congrArg ExceptT.run ((Identity.next_eq (unset i) entity column).trans
    (congrArg Identity.lookAndDraw (same i)))

theorem Shows.is_of_stage {stage : Race.Stage} (h : r.Shows sequence upcoming race)
    (current : race.stages i = stage) : stage.Is sequence (r.programs i) :=
  current ▸ h.stages i

variable [DecidableEq ι] {engine : Engine σ} {observers : ι → List Observer}

namespace Shows

theorem of_turn (h : r.Shows sequence upcoming race)
    (next : upcoming (r.turn engine observers i).engine = (race.turn i).upcoming)
    (own : ((race.turn i).stages i).Is sequence ((r.turn engine observers i).programs i)) :
    (r.turn engine observers i).Shows sequence upcoming (race.turn i) where
  upcoming := next
  stages j := by
    by_cases same : j = i
    next => exact same ▸ own
    next =>
      rw [programs_turn_of_ne same, Race.stages_turn_of_ne race same]
      exact h.stages j

variable (counts : CountsUp engine sequence upcoming) (passive : ∀ o ∈ observers i, o.IsPassive)
include counts passive

theorem look (h : r.Shows sequence upcoming race) (stage : race.stages i = .looks) :
    (r.turn engine observers i).Shows sequence upcoming (race.turn i) := by
  have ready : r.programs i = (Identity.lookAndDraw sequence).run := h.is_of_stage stage
  obtain ⟨next, asks, replies⟩ := Identity.run_lookAndDraw sequence
  obtain ⟨rows, y, count, told, same, counted, there⟩ := counts.looks r.engine
  obtain ⟨reached, left⟩ := turn_of_execute passive (ready.trans asks) told
  refine h.of_turn ?_ ?_
  next =>
    rw [reached, same, h.upcoming]
    simp [Race.turn, stage, Race.upcoming]
  next =>
    rw [left, replies rows count counted]
    rw [h.upcoming, Race.upcoming] at there
    cases created : race.created <;> simp_all [Race.turn, Race.Stage.Is]

theorem create (h : r.Shows sequence upcoming race) (fair : race.Fair)
    (stage : race.stages i = .creates) :
    (r.turn engine observers i).Shows sequence upcoming (race.turn i) := by
  have ready : r.programs i = (Identity.createAndDraw sequence).run := h.is_of_stage stage
  rw [Identity.run_createAndDraw] at ready
  cases created : race.created with
  | false =>
    have missing : upcoming r.engine = none := by rw [h.upcoming, Race.upcoming, created]; rfl
    obtain ⟨rows, y, told, first⟩ := counts.creates r.engine missing
    obtain ⟨reached, left⟩ := turn_of_execute passive ready told
    refine h.of_turn ?_ ?_
    next =>
      rw [reached, first]
      simp [Race.turn, stage, Race.upcoming, fair.unused created]
    next =>
      rw [left]
      simp [Race.turn, stage, created, Race.Stage.Is]
  | true =>
    have there : upcoming r.engine = some (race.drawn.length + 1 : Int) := by
      rw [h.upcoming, Race.upcoming, created]; rfl
    obtain ⟨e, y, told, same, taken⟩ := counts.refuses r.engine _ there
    obtain ⟨reached, left⟩ := turn_of_execute passive ready told
    refine h.of_turn ?_ ?_
    next =>
      rw [reached, same]
      simp [Race.turn, stage, Race.upcoming]
    next =>
      rw [left]
      simp [Race.turn, stage, created, Race.Stage.Is, taken]

theorem draw (h : r.Shows sequence upcoming race) (fair : race.Fair)
    (fits : Text.int64.holds (race.drawn.length + 1) = true) (stage : race.stages i = .draws) :
    (r.turn engine observers i).Shows sequence upcoming (race.turn i) := by
  have ready : r.programs i = (Identity.draw sequence).run := h.is_of_stage stage
  rw [Identity.run_draw] at ready
  have created := fair.ready i stage
  have there : upcoming r.engine = some (race.drawn.length + 1 : Int) := by
    rw [h.upcoming, Race.upcoming, created]; rfl
  obtain ⟨rows, y, told, next, value⟩ := counts.draws r.engine _ there fits
  obtain ⟨reached, left⟩ := turn_of_execute passive ready told
  refine h.of_turn ?_ ?_
  next =>
    rw [reached, next]
    simp [Race.turn, stage, Race.upcoming, created]
  next =>
    rw [left]
    simp only [value]
    simp [Race.turn, stage, Race.Stage.Is]
    rfl

theorem turn [Fintype ι] (few : Fintype.card ι < Nat.pow 2 63) (h : r.Shows sequence upcoming race)
    (fair : race.Fair) : (r.turn engine observers i).Shows sequence upcoming (race.turn i) := by
  cases stage : race.stages i with
  | looks => exact h.look counts passive stage
  | creates => exact h.create counts passive fair stage
  | draws =>
    -- There are not as many clients as numbers of 64 bits.
    refine h.draw counts passive fair ?_ stage
    have := fair.length_lt_card stage
    have bound : Nat.pow 2 63 = 9223372036854775808 := by decide
    rw [Text.int64_holds_iff]
    omega
  | drew | refused =>
    obtain ⟨result, finished⟩ := (h.is_of_stage stage).done_of_left rfl
    have stays : race.turn i = race := by rw [Race.turn, stage]
    rwa [turn_of_done finished, stays]

end Shows

theorem shows_run [Fintype ι] (few : Fintype.card ι < Nat.pow 2 63)
    (counts : CountsUp engine sequence upcoming) (passive : ∀ i, ∀ o ∈ observers i, o.IsPassive)
    (schedule : List ι) (h : r.Shows sequence upcoming race) (fair : race.Fair) :
    (r.run engine observers schedule).Shows sequence upcoming (race.run schedule) := by
  induction schedule generalizing r race with
  | nil => exact h
  | cons i rest ih => exact ih (h.turn counts (passive i) few fair) (fair.turn i)

end Simulation

/-- However the statements are interleaved, each client is done after three of its own. It gets a
value that no other gets, unless it was overtaken: then it fails, as the name is taken. -/
theorem settled_run {ι σ : Type} [DecidableEq ι] [Fintype ι] {engine : Engine σ}
    {observers : ι → List Observer} {options : ι → Options} {entity column sequence : String}
    {upcoming : σ → Option Int} {x : σ} (few : Fintype.card ι < Nat.pow 2 63)
    (passive : ∀ i, ∀ o ∈ observers i, o.IsPassive) (unset : ∀ i, (options i).schema = none)
    (same : ∀ i, Identity.sequence (options i) entity column = sequence)
    (counts : CountsUp engine sequence upcoming) (missing : upcoming x = none)
    (sessions : ι → Session σ) (schedule : List ι) :
    let r := (start x sessions options entity column).run engine observers schedule
    (∀ i, 3 ≤ schedule.count i → ∃ result, r.programs i = .done result) ∧
    (∀ i result, r.programs i = .done result →
      if i ∈ overtaken [] schedule then
        ∃ e, result = .error (.engine e) ∧ e.isNameTaken = true
      else ∃ n, result = .ok n) ∧
    ∀ i j n, r.programs i = .done (.ok n) → r.programs j = .done (.ok n) → i = j := by
  intro r
  have fair : (Race.start.run schedule).Fair := Race.fair_run schedule
  have shows : r.Shows sequence upcoming (Race.start.run schedule) :=
    shows_run few counts passive schedule (shows_start unset same missing sessions) Race.fair_start
  have of_done {i : ι} {result : Except Failure Int} (finished : r.programs i = .done result) :=
    (finished ▸ shows.stages i).of_done
  refine ⟨fun i turns => ?_, fun i result finished => ?_, fun i j n first second => ?_⟩
  next =>
    have left := Race.left_run schedule Race.start i
    have all : ((Race.start : Race ι).stages i).left = 3 := rfl
    exact (shows.stages i).done_of_left (by omega)
  next =>
    have late (ended : ((Race.start.run schedule).stages i).left = 0) :
        (Race.start.run schedule).stages i = .refused ↔ i ∈ overtaken [] schedule :=
      Race.refused_iff schedule ⟨rfl, fun _ => rfl⟩ ended
    rcases of_done finished with ⟨n, stage, gotten⟩ | ⟨stage, refused⟩
    next =>
      have early : i ∉ overtaken [] schedule := by
        rw [← late (by rw [stage]; rfl), stage]
        exact Race.Stage.noConfusion
      rw [if_neg early]
      exact ⟨n, gotten⟩
    next => rwa [if_pos ((late (by rw [stage]; rfl)).1 stage)]
  next =>
    have drew {i : ι} (finished : r.programs i = .done (.ok n)) :
        (Race.start.run schedule).stages i = .drew n := by
      rcases of_done finished with ⟨m, stage, same⟩ | ⟨-, e, refused, -⟩
      next => cases same; exact stage
      next => cases refused
    exact fair.eq_of_drew (drew first) (drew second)

def counter (sequence : String) : Engine (Option Int) where
  execute sql _ upcoming :=
    if sql = Identity.createText sequence then
      match upcoming with
      | none => (.ok [], some 1)
      | some n => (.error ⟨Memory.nameTaken⟩, some n)
    else if sql = Identity.nextText sequence then
      match upcoming with
      | none => (.error ⟨"ORA-02289: sequence does not exist"⟩, none)
      | some n => (.ok [[("resultId", .int n)]], some (n + 1))
    else if sql = Catalog.countText ⟨none, sequence⟩ .sequence then
      (.ok [Memory.countRow upcoming.isSome], upcoming)
    else (.error ⟨"ORA-00900: invalid SQL statement"⟩, upcoming)
  hook _ upcoming := (.ok (), upcoming)

theorem counter_countsUp (sequence : String) : CountsUp (counter sequence) sequence id := by
  have create := Identity.startsWith_createText sequence
  have next := startsWith_nextText sequence
  have count := startsWith_countText ⟨none, sequence⟩ .sequence
  have nextCreate : Identity.nextText sequence ≠ Identity.createText sequence :=
    ne_of_startsWith next (startsWith_other create rfl rfl)
  have countCreate : Catalog.countText ⟨none, sequence⟩ .sequence ≠ Identity.createText sequence :=
    ne_of_startsWith count (startsWith_other create rfl rfl)
  have countNext : Catalog.countText ⟨none, sequence⟩ .sequence ≠ Identity.nextText sequence :=
    (ne_of_startsWith (Identity.startsWith_quote_nextText sequence)
      (startsWith_other (startsWith_count_countText ⟨none, sequence⟩ _) rfl rfl)).symm
  refine ⟨fun x => ?_, ?_, ?_, ?_⟩
  next =>
    obtain ⟨count, counted, there⟩ := Memory.counts_countRow x.isSome
    refine ⟨_, x, count, ?_, rfl, counted, there⟩
    simp [counter, countCreate, countNext]
  next =>
    rintro _ rfl
    exact ⟨[], some 1, by simp [counter], rfl⟩
  next =>
    rintro _ n rfl
    exact ⟨⟨Memory.nameTaken⟩, some n, by simp [counter], rfl, by decide +kernel⟩
  next =>
    rintro _ n rfl fits
    refine ⟨_, some (n + 1), by simp [counter, nextCreate]; rfl, rfl, ?_⟩
    show some (Row.clamp n) = some n
    rw [Row.clamp_of_holds fits]

def orders : Rivals Bool (Option Int) :=
  start none (fun _ => .start none) (fun _ => .empty) "Orders" "id"

def ordering (schedule : List Bool) : Rivals Bool (Option Int) :=
  orders.run (counter "Orders_id_seq") (fun _ => []) schedule

theorem settled_run_orders : ∃ n e,
    (ordering [false, true, false, true, false, true]).programs false = .done (.ok n) ∧
      (ordering [false, true, false, true, false, true]).programs true =
        .done (.error (.engine e)) ∧ e.isNameTaken = true := by
  have passive : ∀ _ : Bool, ∀ o ∈ ([] : List Observer), o.IsPassive :=
    fun _ => List.forall_mem_nil _
  have unset : ∀ _ : Bool, Options.empty.schema = none := fun _ => rfl
  have same : ∀ _ : Bool, Identity.sequence .empty "Orders" "id" = "Orders_id_seq" := fun _ => rfl
  obtain ⟨finished, outcome, -⟩ := settled_run (by decide) passive unset same
    (counter_countsUp "Orders_id_seq") rfl (fun _ => .start none)
    [false, true, false, true, false, true]
  obtain ⟨first, gets⟩ := finished false (by decide)
  obtain ⟨second, refused⟩ := finished true (by decide)
  have value := outcome false first gets
  have failure := outcome true second refused
  rw [if_neg (by decide)] at value
  rw [if_pos (by decide)] at failure
  obtain ⟨n, rfl⟩ := value
  obtain ⟨e, rfl, taken⟩ := failure
  exact ⟨n, e, gets, refused, taken⟩

theorem unsettled_orders :
    CountsUp (counter "Orders_id_seq") "Orders_id_seq" id ∧
      ¬∀ schedule : List Bool, (∀ i, 3 ≤ schedule.count i) →
        ∀ i, ∃ n, (ordering schedule).programs i = .done (.ok n) := by
  refine ⟨counter_countsUp "Orders_id_seq", fun always => ?_⟩
  obtain ⟨n, gotten⟩ := always [false, true, false, true, false, true] (by decide) true
  have begins : orders.Shows "Orders_id_seq" id Race.start := by
    refine shows_start ?_ ?_ ?_ _
    next => exact fun _ => rfl
    next => exact fun _ => rfl
    next => rfl
  have shows := shows_run (by decide) (counter_countsUp "Orders_id_seq")
    (fun _ => List.forall_mem_nil _) [false, true, false, true, false, true] begins Race.fair_start
  have late : (Race.start.run [false, true, false, true, false, true]).stages true = .refused := rfl
  obtain ⟨e, refused, -⟩ := shows.is_of_stage late
  cases gotten.symm.trans refused

end Rivals

end OracleSql
