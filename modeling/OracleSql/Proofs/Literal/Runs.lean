import OracleSql.Literal
import OracleSql.Proofs.Sql.Bare
import OracleSql.Proofs.Sql.Token

set_option autoImplicit false

namespace OracleSql

mutual

-- Neither an instant nor a blob occurs. Their literals are calls with quotes of their own.
def Value.isInline : Value → Bool
  | .instant _ | .blob _ => false
  | .array items => Value.allInline items
  | .object entries => Value.allInlineEntries entries
  | _ => true

def Value.allInline : List Value → Bool
  | [] => true
  | item :: rest => item.isInline && Value.allInline rest

def Value.allInlineEntries : List (String × Value) → Bool
  | [] => true
  | (_, value) :: rest => value.isInline && Value.allInlineEntries rest

end

namespace Literal

def undouble : List Char → List Char
  | '\'' :: '\'' :: cs => '\'' :: undouble cs
  | c :: cs => c :: undouble cs
  | [] => []

/-- What the engine stores for a literal: the outer quotes are dropped, two quotes become one. -/
def decode (sql : String) : Option String :=
  (inner? sql.toList).map fun cs => String.ofList (undouble cs)

theorem undouble_cons_of_ne {c : Char} (cs : List Char) (h : c ≠ '\'') :
    undouble (c :: cs) = c :: undouble cs := by
  rw [undouble]
  intro rest same
  exact absurd same h

theorem doubled_undouble {cs : List Char} (h : hasEvenRuns false cs = true) :
    Sql.doubled .literal (undouble cs) = cs := by
  fun_induction undouble cs with
  | case1 cs ih =>
    have rest : hasEvenRuns false cs = true := by simpa [hasEvenRuns] using h
    have inner := ih rest
    simp only [Sql.doubled, Sql.Quoted.mark] at inner
    simp [Sql.doubled, Sql.Quoted.mark, inner]
  | case2 c cs single ih =>
    by_cases quote : c = '\''
    next =>
      -- a single quote makes an odd run, whether text follows it or not
      subst quote
      cases cs with
      | nil => simp [hasEvenRuns] at h
      | cons d cs =>
        have differs : d ≠ '\'' := fun same => single cs rfl (by rw [same])
        simp [hasEvenRuns, differs] at h
    next =>
      have rest : hasEvenRuns false cs = true := by simpa [hasEvenRuns, quote] using h
      have inner := ih rest
      simp only [Sql.doubled, Sql.Quoted.mark] at inner
      simp [Sql.doubled, Sql.Quoted.mark, quote, inner]
  | case3 => rfl

def EvenRuns (s : String) : Prop :=
  hasEvenRuns false s.toList = true

instance (s : String) : Decidable (EvenRuns s) :=
  inferInstanceAs (Decidable (hasEvenRuns false s.toList = true))

theorem hasEvenRuns_append {odd : Bool} {a b : List Char} (ha : hasEvenRuns odd a = true)
    (hb : hasEvenRuns false b = true) : hasEvenRuns odd (a ++ b) = true := by
  induction a generalizing odd with
  | nil =>
    have even : odd = false := by simpa [hasEvenRuns] using ha
    simpa [even] using hb
  | cons c cs ih =>
    by_cases quote : c = '\''
    next =>
      simp only [hasEvenRuns, quote, if_true] at ha
      simpa [hasEvenRuns, quote] using ih ha
    next =>
      simp only [hasEvenRuns, quote, if_false, Bool.and_eq_true] at ha
      simpa [hasEvenRuns, quote, ha.1] using ih ha.2

theorem hasEvenRuns_of_absent {cs : List Char} (h : '\'' ∉ cs) : hasEvenRuns false cs = true := by
  induction cs with
  | nil => rfl
  | cons c cs ih =>
    have other : c ≠ '\'' := fun same => h (by simp [same])
    have rest := ih fun later => h (List.mem_cons_of_mem c later)
    simp [hasEvenRuns, other, rest]

namespace EvenRuns

theorem append {a b : String} (ha : EvenRuns a) (hb : EvenRuns b) : EvenRuns (a ++ b) := by
  unfold EvenRuns
  rw [String.toList_append]
  exact hasEvenRuns_append ha hb

theorem intercalate {separator : String} (separates : EvenRuns separator) {items : List String}
    (h : ∀ s ∈ items, EvenRuns s) : EvenRuns (separator.intercalate items) :=
  intercalate_induction (by decide) (fun first rest => (first.append separates).append rest) h

end EvenRuns

theorem evenRuns_of_bare {s : String} (h : Bare s) : EvenRuns s :=
  hasEvenRuns_of_absent fun quote => absurd (h _ quote) (by decide)

theorem evenRuns_escapeInner (s : String) : EvenRuns (escapeInner s) := by
  unfold EvenRuns escapeInner normalize
  rw [String.toList_ofList]
  exact hasEvenRuns_evenRuns false _

theorem eq_of_isClosed {cs : List Char} (h : isClosed cs = true) :
    ∃ body, cs = '\'' :: body ++ ['\''] ∧ hasEvenRuns false body = true := by
  unfold isClosed at h
  cases found : inner? cs with
  | none => simp [found] at h
  | some body =>
    rw [found] at h
    refine ⟨body, ?_, h⟩
    unfold inner? at found
    split at found
    next tail =>
      split at found
      next rest reversed =>
        cases found
        -- The last quote is found from the end.
        rw [← List.reverse_reverse tail, reversed]
        simp
      next => cases found
    next => cases found

variable (offset : Int)

mutual

theorem evenRuns_ofValue : ∀ v : Value, v.isInline = true → EvenRuns (ofValue offset true v)
  | .null, _ => (by decide : EvenRuns "NULL")
  | .bool b, _ => (by cases b <;> decide : EvenRuns (if b then "1" else "0"))
  | .int n, _ => evenRuns_of_bare (bare_toString_int n)
  | .float x, _ => by
      unfold ofValue
      split
      next => exact evenRuns_of_bare (Double.bare_plainText x)
      next => decide
  | .text s, _ => evenRuns_escapeInner s
  | .array items, h => by
      unfold ofValue
      split
      next => exact EvenRuns.intercalate (by decide) (evenRuns_ofValues items h)
      next => exact evenRuns_escapeInner _
  | .object entries, _ => evenRuns_escapeInner _

theorem evenRuns_ofValues : ∀ items : List Value, Value.allInline items = true →
    ∀ s ∈ ofValues offset true items, EvenRuns s
  | [], _ => by simp [ofValues]
  | item :: rest, h => by
      have parts : item.isInline = true ∧ Value.allInline rest = true := by
        simpa [Value.allInline] using h
      intro s member
      rcases List.mem_cons.1 member with rfl | member
      next => exact evenRuns_ofValue item parts.1
      next => exact evenRuns_ofValues rest parts.2 s member

end

end Literal

end OracleSql
