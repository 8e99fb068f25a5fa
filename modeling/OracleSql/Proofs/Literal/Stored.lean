import Mathlib.Data.List.Chain
import OracleSql.Proofs.Literal.Runs

set_option autoImplicit false

namespace OracleSql.Literal

section Contract

variable {pair : Char → Char → Bool}

/-- A pair becomes its second character, from left to right. -/
def contract (pair : Char → Char → Bool) : List Char → List Char
  | c :: d :: cs => if pair c d then d :: contract pair cs else c :: contract pair (d :: cs)
  | cs => cs

theorem contract_cons {c : Char} {cs : List Char} (h : ∀ d ∈ cs.head?, pair c d = false) :
    contract pair (c :: cs) = c :: contract pair cs := by
  cases cs with
  | nil => rfl
  | cons d cs => simp [contract, h d rfl]

theorem length_contract_le (cs : List Char) : (contract pair cs).length ≤ cs.length := by
  fun_induction contract pair cs with
  | case1 => simp only [List.length_cons]; omega
  | case2 => simp only [List.length_cons] at *; omega
  | case3 => exact Nat.le_refl _

theorem length_contract_eq_iff {cs : List Char} :
    (contract pair cs).length = cs.length ↔ cs.IsChain fun c d => pair c d = false := by
  -- Every pair costs a character.
  induction cs with
  | nil => exact ⟨fun _ => .nil, fun _ => rfl⟩
  | cons c cs ih =>
    by_cases first : ∀ d ∈ cs.head?, pair c d = false
    next =>
      rw [contract_cons first, List.isChain_cons, List.length_cons, List.length_cons,
        Nat.add_right_cancel_iff, ih]
      exact ⟨fun chain => ⟨first, chain⟩, fun chain => chain.2⟩
    next =>
      cases cs with
      | nil => exact absurd (by simp) first
      | cons d cs =>
        have found : pair c d = true := by simpa using first
        have shorter : (contract pair cs).length ≤ cs.length := length_contract_le cs
        rw [contract, if_pos found, List.isChain_cons_cons, found]
        simp only [List.length_cons]
        exact ⟨fun same => by omega, fun chain => Bool.noConfusion chain.1⟩

theorem contract_eq_self_iff {cs : List Char} :
    contract pair cs = cs ↔ cs.IsChain fun c d => pair c d = false := by
  refine ⟨fun same => length_contract_eq_iff.1 (by rw [same]), fun chain => ?_⟩
  induction cs with
  | nil => rfl
  | cons c cs ih =>
    rw [List.isChain_cons] at chain
    rw [contract_cons chain.1, ih chain.2]

end Contract

def folds (c d : Char) : Bool :=
  c == '\\' && (d == '\'' || d == '"' || d == '\\')

def bothQuotes (c d : Char) : Bool :=
  c == '\'' && d == '\''

theorem fold_eq_contract (cs : List Char) : fold cs = contract folds cs := by
  fun_induction fold cs with
  | case1 cs ih | case2 cs ih | case3 cs ih => simp [contract, folds, ih]
  | case4 c cs quote double backslash ih =>
    have none : ∀ d ∈ cs.head?, folds c d = false := by
      intro d first
      obtain ⟨rest, rfl⟩ := List.head?_eq_some_iff.1 first
      by_contra found
      simp only [folds, Bool.not_eq_false, Bool.and_eq_true, Bool.or_eq_true, beq_iff_eq] at found
      obtain ⟨rfl, (rfl | rfl) | rfl⟩ := found
      next => exact quote rest rfl rfl
      next => exact double rest rfl rfl
      next => exact backslash rest rfl rfl
    rw [contract_cons none, ih]
  | case5 => rfl

theorem undouble_eq_contract (cs : List Char) : undouble cs = contract bothQuotes cs := by
  fun_induction undouble cs with
  | case1 cs ih => simp [contract, bothQuotes, ih]
  | case2 c cs single ih =>
    have none : ∀ d ∈ cs.head?, bothQuotes c d = false := by
      intro d first
      obtain ⟨rest, rfl⟩ := List.head?_eq_some_iff.1 first
      by_contra found
      simp only [bothQuotes, Bool.not_eq_false, Bool.and_eq_true, beq_iff_eq] at found
      obtain ⟨rfl, rfl⟩ := found
      exact single rest rfl rfl
    rw [contract_cons none, ih]
  | case3 => rfl

theorem undouble_evenRuns (cs : List Char) :
    undouble (evenRuns false cs) = undouble cs ∧
      undouble ('\'' :: evenRuns true cs) = undouble ('\'' :: cs) := by
  -- A quote that was added to an odd run is dropped again.
  induction cs with
  | nil => exact ⟨rfl, rfl⟩
  | cons c cs ih =>
    by_cases quote : c = '\''
    next =>
      subst quote
      refine ⟨by simpa [evenRuns] using ih.2, ?_⟩
      simp [evenRuns, undouble, ih.1]
    next =>
      have single : undouble ('\'' :: c :: cs) = '\'' :: undouble (c :: cs) := by
        rw [undouble]
        rintro rest - same
        exact quote (List.cons.inj same).1
      refine ⟨by simp [evenRuns, quote, undouble_cons_of_ne, ih.1], ?_⟩
      rw [single]
      simp [evenRuns, quote, undouble, undouble_cons_of_ne, ih.1]

theorem undouble_normalize (cs : List Char) : undouble (normalize cs) = undouble (fold cs) :=
  (undouble_evenRuns (fold cs)).1

/-- No two neighbours become one character, neither in the literal nor in what is stored. -/
structure Stable (cs : List Char) : Prop where
  unfolded : cs.IsChain fun c d => folds c d = false
  single : cs.IsChain fun c d => bothQuotes c d = false

theorem undouble_fold_eq_iff {cs : List Char} : undouble (fold cs) = cs ↔ Stable cs := by
  rw [fold_eq_contract, undouble_eq_contract]
  constructor
  next =>
    intro same
    -- neither step may lose a character
    have whole := congrArg List.length same
    have first : (contract folds cs).length ≤ cs.length := length_contract_le cs
    have second : (contract bothQuotes (contract folds cs)).length ≤ (contract folds cs).length :=
      length_contract_le _
    have unfolded := length_contract_eq_iff.1 (show (contract folds cs).length = cs.length by omega)
    rw [contract_eq_self_iff.2 unfolded] at same
    exact ⟨unfolded, contract_eq_self_iff.1 same⟩
  next =>
    rintro ⟨unfolded, single⟩
    rw [contract_eq_self_iff.2 unfolded, contract_eq_self_iff.2 single]

theorem decode_enclosed (cs : List Char) :
    decode ("'" ++ String.ofList cs ++ "'") = some (String.ofList (undouble cs)) := by
  have parts : ("'" ++ String.ofList cs ++ "'").toList = '\'' :: (cs ++ ['\'']) := by simp
  rw [decode, parts]
  simp [inner?]

theorem decode_escapeText_iff {s : String} (h : isClosed s.toList = false) :
    decode (escapeText s) = some s ↔ Stable s.toList := by
  rw [escapeText, if_neg (by simp [h]), escapeInner, decode_enclosed, undouble_normalize,
    Option.some_inj, ← undouble_fold_eq_iff]
  exact ⟨fun same => by simpa using congrArg String.toList same, fun same => by rw [same]; simp⟩

end OracleSql.Literal
