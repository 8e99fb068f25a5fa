import Mathlib.Data.List.SplitBy
import OracleSql.Proofs.Literal.Complete

set_option autoImplicit false

namespace OracleSql.Literal

def halved (run : List Char) : List Char :=
  if run.head? = some '\'' then List.replicate ((run.length + 1) / 2) '\'' else run

/-- Each run of quotes is halved. -/
def halveRuns (cs : List Char) : List Char :=
  (cs.splitBy bothQuotes).flatMap halved

theorem halved_replicate (n : Nat) :
    halved (List.replicate n '\'') = List.replicate ((n + 1) / 2) '\'' := by
  cases n with
  | zero => rfl
  | succ n => simp [halved, List.replicate_succ]

theorem run_cases {run : List Char} (some : run ≠ [])
    (h : run.IsChain fun c d => bothQuotes c d = true) :
    (∃ n, run = List.replicate (n + 1) '\'') ∨ ∃ c, c ≠ '\'' ∧ run = [c] := by
  induction run with
  | nil => exact absurd rfl some
  | cons c cs ih =>
    cases cs with
    | nil =>
      by_cases quote : c = '\''
      next => exact .inl ⟨0, by simp [quote]⟩
      next => exact .inr ⟨c, quote, rfl⟩
    | cons d cs =>
      have both := List.isChain_cons_cons.1 h
      obtain ⟨rfl, rfl⟩ : c = '\'' ∧ d = '\'' := by simpa [bothQuotes] using both.1
      rcases ih (List.cons_ne_nil _ _) both.2 with ⟨n, same⟩ | ⟨e, other, same⟩
      next => exact .inl ⟨n + 1, by rw [same]; rfl⟩
      next => exact absurd (List.cons.inj same).1.symm other

theorem undouble_replicate (n : Nat) {rest : List Char} (h : rest.head? ≠ some '\'') :
    undouble (List.replicate n '\'' ++ rest) =
      List.replicate ((n + 1) / 2) '\'' ++ undouble rest := by
  induction n using Nat.twoStepInduction with
  | zero => rfl
  | one =>
    have single : undouble ('\'' :: rest) = '\'' :: undouble rest := by
      rw [undouble]
      rintro later - rfl
      exact h rfl
    simpa using single
  | more n ih _ =>
    have half : (n + 2 + 1) / 2 = (n + 1) / 2 + 1 := by omega
    rw [half]
    simpa [List.replicate_succ, undouble] using ih

theorem undouble_flatten {runs : List (List Char)} (some : [] ∉ runs)
    (quotes : ∀ run ∈ runs, run.IsChain fun c d => bothQuotes c d = true)
    (apart : runs.IsChain fun a b => ∃ ha hb, bothQuotes (a.getLast ha) (b.head hb) = false) :
    undouble runs.flatten = runs.flatMap halved := by
  induction runs with
  | nil => rfl
  | cons run runs ih =>
    obtain ⟨differs, none⟩ := not_or.1 (mt List.mem_cons.2 some)
    have rest := ih none (fun other member => quotes other (List.mem_cons_of_mem _ member)) apart.tail
    rw [List.flatten_cons, List.flatMap_cons, ← rest]
    rcases run_cases (Ne.symm differs) (quotes run List.mem_cons_self) with ⟨n, rfl⟩ | ⟨c, other, rfl⟩
    next =>
      -- The next run starts with another character, so this one ends here.
      have ends : runs.flatten.head? ≠ Option.some '\'' := by
        intro first
        cases runs with
        | nil => cases first
        | cons next runs =>
          obtain ⟨_, filled, separate⟩ := (List.isChain_cons_cons.1 apart).1
          rw [List.flatten_cons, List.head?_append_of_ne_nil _ filled, List.head?_eq_some_head filled,
            Option.some_inj] at first
          simp [bothQuotes, first] at separate
      rw [undouble_replicate _ ends, halved_replicate]
    next =>
      have kept : halved [c] = [c] := by simp [halved, other]
      rw [kept, List.singleton_append, undouble_cons_of_ne _ other, List.singleton_append]

theorem undouble_eq_halveRuns (cs : List Char) : undouble cs = halveRuns cs := by
  have runs := undouble_flatten (List.nil_notMem_splitBy bothQuotes cs)
    (fun _ member => List.isChain_of_mem_splitBy member)
    (List.isChain_getLast_head_splitBy bothQuotes cs)
  rwa [List.flatten_splitBy] at runs

def foldedPairs : List (List Char) :=
  [['\\', '\''], ['\\', '"'], ['\\', '\\'], ['\'', '\'']]

theorem mem_foldedPairs {c d : Char} :
    [c, d] ∈ foldedPairs ↔ folds c d = true ∨ bothQuotes c d = true := by
  simp only [foldedPairs, List.mem_cons, List.cons.injEq, List.not_mem_nil, folds, bothQuotes,
    Bool.and_eq_true, Bool.or_eq_true, beq_iff_eq]
  tauto

theorem stable_iff_no_foldedPair {cs : List Char} :
    Stable cs ↔ ∀ pair ∈ foldedPairs, ¬pair <:+: cs := by
  constructor
  next =>
    rintro ⟨unfolded, single⟩ pair member inside
    obtain ⟨c, d, rfl⟩ : ∃ c d, pair = [c, d] := by
      simp only [foldedPairs, List.mem_cons, List.not_mem_nil, or_false] at member
      obtain rfl | rfl | rfl | rfl := member <;> exact ⟨_, _, rfl⟩
    have first := List.IsChain.infix unfolded inside
    have second := List.IsChain.infix single inside
    rw [List.isChain_pair] at first second
    simp [mem_foldedPairs, first, second] at member
  next =>
    intro absent
    have apart {c d : Char} (inside : [c, d] <:+: cs) : folds c d = false ∧ bothQuotes c d = false := by
      have none := mt mem_foldedPairs.2 fun member => absent _ member inside
      simpa using none
    have neighbours := List.isChain_isInfix cs
    exact ⟨neighbours.imp fun _ _ inside => (apart inside).1,
      neighbours.imp fun _ _ inside => (apart inside).2⟩

/-- Escape pairs lose their backslash, from left to right, and then each run of quotes is halved. A
text is stored as it is exactly when it has no escape pair and no two quotes side by side. -/
theorem stored_escapeText {s : String} (other : ¬IsLiteral s) :
    decode (escapeText s) = some (String.ofList (halveRuns (contract folds s.toList))) ∧
      (decode (escapeText s) = some s ↔ ∀ pair ∈ foldedPairs, ¬pair <:+: s.toList) := by
  have unclosed : isClosed s.toList = false := Bool.eq_false_iff.2 (mt isClosed_iff.1 other)
  constructor
  next =>
    have escaped : escapeText s = "'" ++ String.ofList (normalize s.toList) ++ "'" :=
      if_neg (by simp [unclosed])
    rw [escaped, decode_enclosed, undouble_normalize, fold_eq_contract, undouble_eq_halveRuns]
  next => rw [decode_escapeText_iff unclosed, stable_iff_no_foldedPair]

theorem stored_escapeText_hostile :
    ¬IsLiteral "a\\\\'b''' \\'" ∧
      decode (escapeText "a\\\\'b''' \\'") = some "a\\'b'' '" := by
  have other : ¬IsLiteral "a\\\\'b''' \\'" := by
    rw [← isClosed_iff]
    decide
  refine ⟨other, (stored_escapeText other).1.trans ?_⟩
  decide +kernel

end OracleSql.Literal
