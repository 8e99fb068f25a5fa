import Mathlib.Data.Fintype.Card
import Mathlib.Data.Fintype.List
import Mathlib.Logic.Function.Basic

set_option autoImplicit false

namespace OracleSql

namespace Race

inductive Stage where
  | looks
  | creates
  | draws
  | drew (value : Int)
  | refused

def Stage.left : Stage → Nat
  | .looks => 3
  | .creates => 2
  | .draws => 1
  | .drew _ | .refused => 0

end Race

-- Who has looked for the sequence in vain when another one creates it.
def overtaken {ι : Type} [DecidableEq ι] (looked : List ι) : List ι → List ι
  | [] => []
  -- The first to have a turn again is the one that creates it.
  | i :: rest => if i ∈ looked then looked.filter (· ≠ i) else overtaken (i :: looked) rest

/-- Those who have drawn, in their order, and how far each one is. -/
structure Race (ι : Type) where
  created : Bool
  drawn : List ι
  stages : ι → Race.Stage

namespace Race

variable {ι : Type} [DecidableEq ι] {r : Race ι} {i j : ι} {n : Int}

def start : Race ι :=
  ⟨false, [], fun _ => .looks⟩

def upcoming (r : Race ι) : Option Int :=
  if r.created then some (r.drawn.length + 1) else none

def turn (r : Race ι) (i : ι) : Race ι :=
  match r.stages i with
  | .looks =>
      { r with stages := Function.update r.stages i (if r.created then .draws else .creates) }
  | .creates =>
      { r with
        created := true
        stages := Function.update r.stages i (if r.created then .refused else .draws) }
  | .draws =>
      { r with
        drawn := r.drawn ++ [i]
        stages := Function.update r.stages i (.drew (r.drawn.length + 1)) }
  | .drew _ | .refused => r

def run (schedule : List ι) (r : Race ι) : Race ι :=
  schedule.foldl turn r

theorem run_of_turn (inv : Race ι → Prop) (keeps : ∀ r i, inv r → inv (r.turn i))
    (schedule : List ι) (start : inv r) : inv (r.run schedule) := by
  induction schedule generalizing r with
  | nil => exact start
  | cons i rest ih => exact ih (keeps r i start)

theorem stages_turn_of_ne (r : Race ι) (other : j ≠ i) : (r.turn i).stages j = r.stages j := by
  unfold turn
  split <;> simp [other]

theorem left_turn_self (r : Race ι) (i : ι) :
    ((r.turn i).stages i).left ≤ (r.stages i).left - 1 := by
  unfold turn
  cases stage : r.stages i with
  | looks | creates => cases r.created <;> simp [Stage.left]
  | draws | drew | refused => simp [Stage.left, stage]

theorem left_run (schedule : List ι) (r : Race ι) (i : ι) :
    ((r.run schedule).stages i).left ≤ (r.stages i).left - schedule.count i := by
  induction schedule generalizing r with
  | nil => exact Nat.le_refl _
  | cons j rest ih =>
    refine Nat.le_trans (ih (r.turn j)) ?_
    by_cases same : j = i
    next =>
      subst same
      have := left_turn_self r j
      rw [List.count_cons_self]
      omega
    next => rw [stages_turn_of_ne r (Ne.symm same), List.count_cons_of_ne same]

/-- Each one draws at most once, and gets the number of its place. -/
structure Fair (r : Race ι) : Prop where
  ready : ∀ i, r.stages i = .draws → r.created = true
  unused : r.created = false → r.drawn = []
  once : r.drawn.Nodup
  places : ∀ i n, r.stages i = .drew n ↔ i ∈ r.drawn ∧ n = r.drawn.idxOf i + 1

theorem fair_start : (start : Race ι).Fair where
  ready _ draws := by cases draws
  unused _ := rfl
  once := .nil
  places i n := by simp [start]

namespace Fair

theorem not_mem_drawn (h : r.Fair) (waits : ∀ n, r.stages i ≠ .drew n) : i ∉ r.drawn :=
  fun member => waits _ ((h.places i _).2 ⟨member, rfl⟩)

theorem eq_of_drew (h : r.Fair) (first : r.stages i = .drew n) (second : r.stages j = .drew n) :
    i = j := by
  obtain ⟨member, rfl⟩ := (h.places i n).1 first
  obtain ⟨-, same⟩ := (h.places j _).1 second
  exact (List.idxOf_inj member).1 (by omega)

theorem of_update (h : r.Fair) {created : Bool} {stage : Stage} (waits : ∀ n, r.stages i ≠ .drew n)
    (undrawn : ∀ n, stage ≠ .drew n) (stays : r.created = true → created = true)
    (ready : stage = .draws → created = true) :
    Fair { r with created, stages := Function.update r.stages i stage } where
  ready j draws := by
    by_cases same : j = i
    next =>
      subst same
      simp only [Function.update_self] at draws
      exact ready draws
    next =>
      simp only [Function.update_of_ne same] at draws
      exact stays (h.ready j draws)
  unused fresh := h.unused (Bool.eq_false_iff.2 (mt stays (by simpa using fresh)))
  once := h.once
  places j n := by
    by_cases same : j = i
    next =>
      subst same
      simp [undrawn n, h.not_mem_drawn waits]
    next =>
      simp only [Function.update_of_ne same]
      exact h.places j n

theorem once_append (h : r.Fair) (draws : r.stages i = .draws) : (r.drawn ++ [i]).Nodup := by
  have out := h.not_mem_drawn (i := i) (by simp [draws])
  exact List.concat_eq_append ▸ h.once.concat out

theorem of_draw (h : r.Fair) (draws : r.stages i = .draws) :
    Fair { r with
      drawn := r.drawn ++ [i]
      stages := Function.update r.stages i (.drew (r.drawn.length + 1)) } where
  ready _ _ := h.ready i draws
  unused fresh := by
    simp only [h.ready i draws] at fresh
    cases fresh
  once := h.once_append draws
  places j n := by
    have out := h.not_mem_drawn (i := i) (by simp [draws])
    by_cases same : j = i
    next =>
      subst same
      simp [List.idxOf_append_of_notMem out, eq_comm]
    next =>
      simp only [Function.update_of_ne same, h.places j n, List.mem_append, List.mem_singleton, same,
        or_false]
      refine and_congr_right fun member => ?_
      rw [List.idxOf_append_of_mem member]

theorem turn (h : r.Fair) (i : ι) : (r.turn i).Fair := by
  unfold Race.turn
  cases stage : r.stages i with
  | looks =>
    refine h.of_update (by simp [stage]) ?_ id ?_
    all_goals cases r.created <;> simp
  | creates =>
    refine h.of_update (by simp [stage]) ?_ (fun _ => rfl) (fun _ => rfl)
    cases r.created <;> simp
  | draws => exact h.of_draw stage
  | drew | refused => exact h

theorem length_lt_card [Fintype ι] (h : r.Fair) (draws : r.stages i = .draws) :
    r.drawn.length < Fintype.card ι := by
  simpa [Nat.add_one_le_iff] using (h.once_append draws).length_le_card

end Fair

theorem fair_run (schedule : List ι) : (start.run schedule : Race ι).Fair :=
  run_of_turn Fair (fun _ i h => h.turn i) schedule fair_start

-- Nobody has created the sequence, and these have looked for it in vain.
structure Unserved (looked : List ι) (r : Race ι) : Prop where
  missing : r.created = false
  stages : ∀ i, r.stages i = if i ∈ looked then .creates else .looks

-- The sequence is there, and these have looked for it before.
structure Served (late : List ι) (r : Race ι) : Prop where
  there : r.created = true
  late_iff : ∀ i, i ∈ late ↔ r.stages i = .creates ∨ r.stages i = .refused

variable {looked late : List ι}

theorem Served.turn (h : r.Served late) (i : ι) : (r.turn i).Served late where
  there := by
    unfold Race.turn
    split <;> simp [h.there]
  late_iff j := by
    by_cases same : j = i
    next =>
      subst same
      rw [h.late_iff j]
      unfold Race.turn
      cases stage : r.stages j <;> simp [h.there, stage]
    next => rw [stages_turn_of_ne r same, h.late_iff j]

theorem Unserved.look (h : r.Unserved looked) (new : i ∉ looked) :
    (r.turn i).Unserved (i :: looked) := by
  have stage : r.stages i = .looks := by rw [h.stages i, if_neg new]
  refine ⟨by simp [Race.turn, stage, h.missing], fun j => ?_⟩
  by_cases same : j = i
  next =>
    subst same
    simp [Race.turn, stage, h.missing]
  next => simp [stages_turn_of_ne r same, h.stages j, same]

theorem Unserved.create (h : r.Unserved looked) (member : i ∈ looked) :
    (r.turn i).Served (looked.filter (· ≠ i)) := by
  have stage : r.stages i = .creates := by rw [h.stages i, if_pos member]
  refine ⟨by simp [Race.turn, stage], fun j => ?_⟩
  by_cases same : j = i
  next =>
    subst same
    simp [Race.turn, stage, h.missing]
  next =>
    rw [stages_turn_of_ne r same, h.stages j]
    by_cases before : j ∈ looked <;> simp [before, same]

theorem refused_iff (schedule : List ι) (h : r.Unserved looked)
    (ended : ((r.run schedule).stages i).left = 0) :
    (r.run schedule).stages i = .refused ↔ i ∈ overtaken looked schedule := by
  induction schedule generalizing looked r with
  | nil =>
    have stage : (r.run []).stages i = if i ∈ looked then .creates else .looks := h.stages i
    rw [stage] at ended
    split at ended <;> cases ended
  | cons j rest ih =>
    rw [overtaken]
    split
    next member =>
      -- From here on the sequence is there, so nobody else comes to create it in vain.
      have served : (r.run (j :: rest)).Served (looked.filter (· ≠ j)) :=
        run_of_turn (Served _) (fun _ i h => h.turn i) rest (h.create member)
      rw [served.late_iff i]
      refine ⟨.inr, fun late => late.resolve_left fun creates => ?_⟩
      rw [creates] at ended
      cases ended
    next new => exact ih (h.look new) ended

end Race

end OracleSql
