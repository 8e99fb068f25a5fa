import OracleSql.Json.Basic

set_option autoImplicit false

namespace OracleSql.Json

mutual

def weight : Json → Nat
  | .array items => weightOfItems items + 1
  | .object entries => weightOfEntries entries + 1
  | _ => 1

def weightOfItems : List Json → Nat
  | [] => 0
  | item :: rest => weight item + weightOfItems rest

def weightOfEntries : List (String × Json) → Nat
  | [] => 0
  | (_, value) :: rest => weight value + weightOfEntries rest

end

theorem weight_pos (doc : Json) : 0 < weight doc := by
  cases doc <;> simp [weight]

theorem weight_le_of_mem {items : List Json} {item : Json} (h : item ∈ items) :
    weight item ≤ weightOfItems items := by
  induction items with
  | nil => cases h
  | cons first rest ih =>
    rcases List.mem_cons.1 h with rfl | h
    next => simp [weightOfItems]
    next => have := ih h; simp only [weightOfItems]; omega

theorem weight_le_of_mem_entries {entries : List (String × Json)} {e : String × Json}
    (h : e ∈ entries) : weight e.2 ≤ weightOfEntries entries := by
  induction entries with
  | nil => cases h
  | cons first rest ih =>
    rcases List.mem_cons.1 h with rfl | h
    next => simp [weightOfEntries]
    next => have := ih h; simp only [weightOfEntries]; omega

theorem weight_le_of_get? {entries : List (String × Json)} {key : String} {value : Json}
    (h : Keyed.get? entries key = some value) : weight value ≤ weightOfEntries entries := by
  simp only [Keyed.get?, Option.map_eq_some_iff] at h
  obtain ⟨e, found, rfl⟩ := h
  exact weight_le_of_mem_entries (List.mem_of_find?_eq_some found)

theorem weight_le_of_getElem? {items : List Json} {position : Nat} {item : Json}
    (h : items[position]? = some item) : weight item ≤ weightOfItems items :=
  weight_le_of_mem (List.mem_of_getElem? h)

theorem weightOfItems_drop_le (items : List Json) (n : Nat) :
    weightOfItems (items.drop n) ≤ weightOfItems items := by
  induction items generalizing n with
  | nil => simp
  | cons first rest ih =>
    cases n with
    | zero => simp
    | succ n => have := ih n; simp only [List.drop_succ_cons, weightOfItems]; omega

theorem weightOfItems_take_le (items : List Json) (n : Nat) :
    weightOfItems (items.take n) ≤ weightOfItems items := by
  induction items generalizing n with
  | nil => simp
  | cons first rest ih =>
    cases n with
    | zero => simp [weightOfItems]
    | succ n => have := ih n; simp only [List.take_succ_cons, weightOfItems]; omega

-- An array is a list of arguments, null is none, and anything else is one.
def arguments : Json → List Json
  | .array items => items
  | .null => []
  | doc => [doc]

theorem weightOfItems_arguments_le (doc : Json) : weightOfItems doc.arguments ≤ weight doc := by
  cases doc <;> simp [arguments, weightOfItems, weight]

end OracleSql.Json
