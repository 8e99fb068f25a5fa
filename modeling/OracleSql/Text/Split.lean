set_option autoImplicit false

namespace OracleSql.Text

def split (separator : Char) : List Char → List (List Char)
  | [] => [[]]
  | c :: cs =>
      if c = separator then [] :: split separator cs
      else
        match split separator cs with
        | part :: parts => (c :: part) :: parts
        | [] => [[c]]

theorem split_ne_nil (separator : Char) (cs : List Char) : split separator cs ≠ [] := by
  cases cs with
  | nil => simp [split]
  | cons c cs =>
    simp only [split]
    split
    next => simp
    next => split <;> simp

def splitText (separator : Char) (s : String) : List String :=
  (split separator s.toList).map String.ofList

def dropDollars (s : String) : String :=
  String.ofList (s.toList.dropWhile (· == '$'))

def startsWith (start s : String) : Bool :=
  start.toList.isPrefixOf s.toList

end OracleSql.Text

namespace OracleSql

theorem startsWith_append {start a : String} (h : Text.startsWith start a = true) (b : String) :
    Text.startsWith start (a ++ b) = true := by
  unfold Text.startsWith at h ⊢
  rw [List.isPrefixOf_iff_prefix] at h ⊢
  rw [String.toList_append]
  exact h.trans (List.prefix_append _ _)

-- The characters of a literal need not be decoded.
theorem startsWith_literal {start text : List Char} {starts : Bool}
    (h : start.isPrefixOf text = starts) :
    Text.startsWith (String.ofList start) (String.ofList text) = starts := by
  rw [Text.startsWith, String.toList_ofList, String.toList_ofList, h]

theorem startsWith_shorter {a b : List Char} {text : String}
    (h : Text.startsWith (String.ofList b) text = true) (shorter : a.isPrefixOf b = true) :
    Text.startsWith (String.ofList a) text = true := by
  unfold Text.startsWith at h ⊢
  rw [String.toList_ofList, List.isPrefixOf_iff_prefix] at h ⊢
  exact (List.isPrefixOf_iff_prefix.1 shorter).trans h

theorem startsWith_longer {a b c : String} (longer : Text.startsWith a b = true)
    (other : Text.startsWith a c = false) : Text.startsWith b c = false := by
  unfold Text.startsWith at longer other ⊢
  rw [List.isPrefixOf_iff_prefix] at longer
  rw [← Bool.not_eq_true, List.isPrefixOf_iff_prefix] at other ⊢
  exact fun starts => other (longer.trans starts)

theorem startsWith_other {a b : List Char} {text : String}
    (h : Text.startsWith (String.ofList a) text = true) (apart : a.isPrefixOf b = false)
    (apart' : b.isPrefixOf a = false) : Text.startsWith (String.ofList b) text = false := by
  unfold Text.startsWith at h ⊢
  rw [String.toList_ofList, List.isPrefixOf_iff_prefix] at h
  rw [← Bool.not_eq_true, List.isPrefixOf_iff_prefix] at apart apart' ⊢
  rw [String.toList_ofList]
  intro k
  exact (List.prefix_or_prefix_of_prefix h k).elim apart apart'

theorem ne_of_startsWith {start a b : String} (ha : Text.startsWith start a = true)
    (hb : Text.startsWith start b = false) : a ≠ b := by
  rintro rfl
  rw [ha] at hb
  cases hb

end OracleSql
