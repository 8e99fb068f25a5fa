import OracleSql.Proofs.Session.Sharing

set_option autoImplicit false

namespace OracleSql

section Connection

variable {ι : Type}

theorem Step.moves_eq (asked : Step) (answer : asked.Answer) (i : ι) :
    asked.moves answer i = [] ∨ ∃ m, asked.moves answer i = [m] := by
  rw [Step.moves]
  cases asked.act? answer with
  | none => exact .inl rfl
  | some act => exact .inr ⟨⟨i, act⟩, rfl⟩

-- The last that was asked for a transaction is its end, and that was refused.
def Refused (moves : List (Move ι)) : Prop :=
  ∃ before j h during, moves = before ++ ⟨j, .hook h false⟩ :: during ∧ h ≠ .begin ∧
    ∀ m ∈ during, m.act.hook? = none

theorem opened_append_of_hook? {moves more : List (Move ι)} (quiet : ∀ m ∈ more, m.act.hook? = none) :
    opened (moves ++ more) = opened moves := by
  rw [opened, List.foldl_append]
  show more.foldl openAfter (opened moves) = opened moves
  induction more with
  | nil => rfl
  | cons m rest ih =>
    obtain ⟨first, others⟩ := List.forall_mem_cons.1 quiet
    rw [List.foldl_cons, openAfter, first]
    exact ih others

theorem Refused.append {moves more : List (Move ι)} (h : Refused moves)
    (quiet : ∀ m ∈ more, m.act.hook? = none) : Refused (moves ++ more) := by
  obtain ⟨before, j, hook, during, rfl, ending, none⟩ := h
  exact ⟨before, j, hook, during ++ more, by simp, ending, List.forall_mem_append.2 ⟨none, quiet⟩⟩

theorem refused_of_opened {moves : List (Move ι)} {j : ι} {h : Hook} {accepted : Bool}
    (ending : h ≠ .begin) (isOpen : opened (moves ++ [⟨j, .hook h accepted⟩]) = true) :
    Refused (moves ++ [⟨j, .hook h accepted⟩]) := by
  cases accepted with
  | false => exact ⟨moves, j, h, [], rfl, ending, List.forall_mem_nil _⟩
  | true =>
    rw [opened, List.foldl_append] at isOpen
    cases h with
    | begin => exact absurd rfl ending
    | commit | rollback => cases isOpen

end Connection

variable {ι σ : Type} [DecidableEq ι] {R : ι → Type}

inductive Standing (moves : List (Move ι)) : Prop where
  | within (j : ι) {before during : List (Move ι)}
      (begun : moves = before ++ ⟨j, .hook .begin true⟩ :: during)
      (calm : ∀ m ∈ during, m.act.IsCalm) (holds : phaseAfter j moves = .holds)
  | outside (nobody : ∀ j, phaseAfter j moves ≠ .holds) (rest : opened moves = true → Refused moves)

inductive Held (j : ι) (moves : List (Move ι)) : List (Move ι) → Prop where
  | still {after : List (Move ι)} (calm : ∀ m ∈ after, m.act.IsCalm)
      (holds : phaseAfter j moves = .holds) : Held j moves after
  | ended {second : List (Move ι)} {h : Hook} (ending : h ≠ .begin) (accepted : Bool)
      (rest : List (Move ι)) (calm : ∀ m ∈ second, m.act.IsCalm) :
      Held j moves (second ++ ⟨j, .hook h accepted⟩ :: rest)

inductive Stands (moves before after : List (Move ι)) : Prop where
  | inside (j : ι) {earlier first : List (Move ι)}
      (begun : before = earlier ++ ⟨j, .hook .begin true⟩ :: first)
      (calm : ∀ m ∈ first, m.act.IsCalm) (held : Held j moves after)
  | outside (nobody : ∀ j, phaseAfter j before ≠ .holds) (rest : opened before = true → Refused before)
      (anew : Anew moves after)

theorem Standing.stands {moves : List (Move ι)} (standing : Standing moves) (i : ι) (sql : String)
    (params : List Value) (accepted : Bool) :
    Stands (moves ++ [⟨i, .statement sql params accepted⟩]) moves [] := by
  have same (j : ι) :
      phaseAfter j (moves ++ [⟨i, .statement sql params accepted⟩]) = phaseAfter j moves := by
    rw [phaseAfter_append_singleton]
    cases phaseAfter j moves <;> exact ite_self _
  cases standing with
  | within j begun calm holds =>
    exact .inside j begun calm (.still (List.forall_mem_nil _) ((same j).trans holds))
  | outside nobody rest =>
    exact .outside nobody rest (.inr ⟨rfl, fun j => same j ▸ nobody j⟩)

section Moved

variable {engine : Engine σ} {observers : List Observer} {p : Pool ι σ R} {i j : ι} {asked : Step}
  {next : asked.Answer → Program (Except Failure (R i))}

theorem Pool.Orderly.moves_of_holds (h : p.Orderly) (ready : p.tasks i = .ask asked next)
    (holds : phaseAfter j p.moves = .holds) :
    ((∀ m ∈ asked.moves (p.session.step engine observers asked).1 i, m.act.IsCalm) ∧
        phaseAfter j (p.moved engine observers i asked next).moves = .holds) ∨
      ∃ (ending : Hook) (accepted : Bool), ending ≠ .begin ∧
        asked.moves (p.session.step engine observers asked).1 i = [⟨j, .hook ending accepted⟩] ∧
        ∀ k, phaseAfter k (p.moved engine observers i asked next).moves ≠ .holds := by
  by_cases same : i = j
  next =>
    subst same
    have allowed := h.allows ready
    rw [holds] at allowed
    rcases allowed with inner | ⟨ending, rfl, other⟩
    next =>
      refine .inl ⟨fun m member => Step.isCalm_of_isInner inner (Step.of_mem_moves member).2, ?_⟩
      rw [Pool.phaseAfter_moved_self, holds, Phase.holds_next inner]
    next => exact .inr ⟨ending, _, other, rfl, h.ne_holds_of_end holds ending next⟩
  next =>
    have other : j ≠ i := Ne.symm same
    have busy : phaseAfter j p.moves ≠ .idle := holds ▸ Phase.noConfusion
    refine .inl ⟨fun m member => h.isCalm_of_ne ready other busy (Step.of_mem_moves member).2, ?_⟩
    exact (Pool.phaseAfter_moved_of_ne _ _ _ _ _ _ other).trans holds

theorem Standing.moved (h : p.Orderly) (ready : p.tasks i = .ask asked next)
    (standing : Standing p.moves) : Standing (p.moved engine observers i asked next).moves := by
  cases standing with
  | @within j before during begun calm holds =>
    rcases h.moves_of_holds ready holds with ⟨calm', holds'⟩ | ⟨ending, accepted, other, did, nobody⟩
    next =>
      have still : (p.moved engine observers i asked next).moves =
          before ++ ⟨j, .hook .begin true⟩ ::
            (during ++ asked.moves (p.session.step engine observers asked).1 i) := by
        rw [Pool.moves_moved, begun, List.append_assoc]
        rfl
      exact .within j still (List.forall_mem_append.2 ⟨calm, calm'⟩) holds'
    next =>
      refine .outside nobody ?_
      rw [Pool.moves_moved, did]
      exact refused_of_opened other
  | outside nobody rest =>
    rcases h.moves_of_nobody ready nobody with ⟨quiet, nobody'⟩ | ⟨begins, holds⟩
    next =>
      refine .outside nobody' ?_
      rw [Pool.moves_moved, opened_append_of_hook? quiet]
      exact fun isOpen => (rest isOpen).append quiet
    next =>
      have begun : (p.moved engine observers i asked next).moves =
          p.moves ++ ⟨i, .hook .begin true⟩ :: [] := by
        rw [Pool.moves_moved, begins]
      exact .within i begun (List.forall_mem_nil _) holds

theorem Held.moved {after : List (Move ι)} (h : p.Orderly) (ready : p.tasks i = .ask asked next)
    (held : Held j p.moves after) : Held j (p.moved engine observers i asked next).moves
      (after ++ asked.moves (p.session.step engine observers asked).1 i) := by
  cases held with
  | ended ending accepted rest calm =>
    rw [List.append_assoc]
    exact .ended ending accepted _ calm
  | still calm holds =>
    rcases h.moves_of_holds ready holds with ⟨calm', holds'⟩ | ⟨ending, accepted, other, did, -⟩
    next => exact .still (List.forall_mem_append.2 ⟨calm, calm'⟩) holds'
    next =>
      rw [did]
      exact .ended other accepted [] calm

theorem Stands.moved {before after : List (Move ι)} (h : p.Orderly)
    (ready : p.tasks i = .ask asked next) (stands : Stands p.moves before after) :
    Stands (p.moved engine observers i asked next).moves before
      (after ++ asked.moves (p.session.step engine observers asked).1 i) := by
  cases stands with
  | inside j begun calm held => exact .inside j begun calm (held.moved h ready)
  | outside nobody rest anew => exact .outside nobody rest (anew.moved h ready)

end Moved

structure Pool.Surveyed (p : Pool ι σ R) : Prop where
  orderly : p.Orderly
  standing : Standing p.moves
  stands : ∀ {before after : List (Move ι)} {i : ι} {sql : String} {params : List Value}
    {accepted : Bool}, p.moves = before ++ ⟨i, .statement sql params accepted⟩ :: after →
      Stands p.moves before after

theorem Pool.Surveyed.turn {engine : Engine σ} {observers : List Observer} {p : Pool ι σ R}
    (h : p.Surveyed) (i : ι) : (p.turn engine observers i).Surveyed := by
  cases ready : p.tasks i with
  | done result => rwa [turn_of_done ready]
  | ask asked next =>
    rw [turn_of_ask ready]
    refine ⟨h.orderly.moved ready, h.standing.moved h.orderly ready, ?_⟩
    intro before after j sql params accepted split
    have old {after : List (Move ι)}
        (was : p.moves = before ++ ⟨j, .statement sql params accepted⟩ :: after) :
        Stands (p.moved engine observers i asked next).moves before
          (after ++ asked.moves (p.session.step engine observers asked).1 i) :=
      (h.stands was).moved h.orderly ready
    rw [moves_moved] at split old ⊢
    rcases asked.moves_eq (p.session.step engine observers asked).1 i with none | ⟨m, one⟩
    next =>
      rw [none, List.append_nil] at split
      simpa [none] using old split
    next =>
      rw [one] at split old ⊢
      rcases List.eq_nil_or_concat after with rfl | ⟨rest, last, rfl⟩
      next =>
        obtain ⟨rfl, same⟩ := List.append_inj' split rfl
        cases same
        exact h.standing.stands j sql params accepted
      next =>
        rw [List.concat_eq_append, ← List.cons_append, ← List.append_assoc] at split
        obtain ⟨was, same⟩ := List.append_inj' split rfl
        cases same
        rw [List.concat_eq_append]
        exact old was

/-- Where a statement lies, and what becomes of it. -/
inductive Placed (before after : List (Move ι)) : Prop where
  | pending (j : ι) {earlier first : List (Move ι)}
      (begun : before = earlier ++ ⟨j, .hook .begin true⟩ :: first)
      (calm : ∀ m ∈ first ++ after, m.act.IsCalm)
  | decided (j : ι) {earlier first second rest : List (Move ι)} {h : Hook} {accepted : Bool}
      (begun : before = earlier ++ ⟨j, .hook .begin true⟩ :: first) (ending : h ≠ .begin)
      (ended : after = second ++ ⟨j, .hook h accepted⟩ :: rest)
      (calm : ∀ m ∈ first ++ second, m.act.IsCalm)
      (fate : ∀ carries, TakesEffect carries before after ↔
        (if accepted then some h else rest.findSome? (Move.settles? carries)) = some .commit)
  | atOnce (nobody : ∀ j, phaseAfter j before ≠ .holds)
      (fate : ∀ carries, TakesEffect carries before after)
  | leftOver (nobody : ∀ j, phaseAfter j before ≠ .holds) (refused : Refused before)
      (fate : ¬ TakesEffect false before after)

theorem Stands.placed {moves before after : List (Move ι)} (stands : Stands moves before after) :
    Placed before after := by
  cases stands with
  | inside j begun calm held =>
    cases held with
    | still calm' => exact .pending j begun (List.forall_mem_append.2 ⟨calm, calm'⟩)
    | ended ending accepted rest calm' =>
      have within := List.forall_mem_append.2 ⟨calm, calm'⟩
      refine .decided j begun ending rfl within fun carries => ?_
      rw [begun, takesEffect_iff carries j _ rest ending accepted within]
  | outside nobody rest anew =>
    cases isOpen : opened before with
    | false => exact .atOnce nobody fun carries isOpen' => by rw [isOpen] at isOpen'; cases isOpen'
    | true =>
      refine .leftOver nobody (rest isOpen) fun took => ?_
      exact findSome?_settles?_of_begin (anew.imp_right And.left) (took isOpen)

/-- A statement that is executed while some task has a transaction to end is decided by that end,
whichever task it is of. Any other takes effect at once, whatever comes of its call: also that of a
call which has joined a transaction, but comes before its beginning or goes on after its end. Only
what follows a refused end may be left over. -/
theorem Pool.placed_run (engine : Engine σ) (observers : List Observer) (bodies : ∀ i, Body (R i))
    (s : Session σ) (schedule : List ι) {before after : List (Move ι)} {i : ι} {sql : String}
    {params : List Value} {accepted : Bool}
    (did : ((start bodies s).run engine observers schedule).moves =
      before ++ ⟨i, .statement sql params accepted⟩ :: after) : Placed before after := by
  have surveyed : ((start bodies s).run engine observers schedule).Surveyed := by
    refine run_of_turn Surveyed (fun p i h => h.turn i) schedule ⟨orderly_start bodies, ?_, ?_⟩
    next => exact .outside (fun _ => Phase.noConfusion) (fun isOpen => absurd isOpen Bool.false_ne_true)
    next =>
      intro before after i sql params accepted split
      exact absurd split (List.append_ne_nil_of_right_ne_nil _ (List.cons_ne_nil _ _)).symm
  exact (surveyed.stands did).placed

-- The transaction that the other task has joined is committed before that one goes on and fails.
def straggling : Pool Bool Script fun _ => Unit :=
  (Pool.start (rivals true) (Session.start .empty)).run Script.engine []
    [true, true, false, true, true, true, false]

example : straggling.tasks false = .done (.error (.state (.other "boom"))) ∧
    ∃ before, straggling.moves = before ++ [⟨false, .statement "DELETE FROM \"a\"" [] true⟩] ∧
      opened before = false :=
  ⟨rfl, [_, _, _, _, _, _], rfl, rfl⟩

end OracleSql
