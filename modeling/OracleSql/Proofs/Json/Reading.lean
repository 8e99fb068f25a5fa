import OracleSql.Proofs.Json.Keys
import OracleSql.Proofs.Json.Scalar
import OracleSql.Proofs.Sql.Bare

set_option autoImplicit false

namespace OracleSql

namespace Json

mutual

def sorted : Json → Json
  | .array items => .array (sortedItems items)
  | .object entries => .ofEntries (sortedEntries entries)
  | doc => doc

def sortedItems : List Json → List Json
  | [] => []
  | item :: rest => sorted item :: sortedItems rest

def sortedEntries : List (String × Json) → List (String × Json)
  | [] => []
  | (key, value) :: rest => (key, sorted value) :: sortedEntries rest

end

@[simp] theorem sortedItems_eq_map (items : List Json) : sortedItems items = items.map sorted := by
  induction items with
  | nil => rfl
  | cons item rest ih => simp [sortedItems, ih]

@[simp] theorem sortedEntries_eq_map (entries : List (String × Json)) :
    sortedEntries entries = entries.map fun e => (e.1, sorted e.2) := by
  induction entries with
  | nil => rfl
  | cons e rest ih => simp [sortedEntries, ih]

/-- Numbers are whole and 64 bits hold them, and arrays and objects are nested at most so deep. -/
inductive Exact : Nat → Json → Prop
  | null (depth : Nat) : Exact depth .null
  | bool (depth : Nat) (b : Bool) : Exact depth (.bool b)
  | int (depth : Nat) (n : Int) (fits : Text.int64.holds n = true ∨ Text.word64.holds n = true) :
      Exact depth (.int n)
  | text (depth : Nat) (s : String) : Exact depth (.text s)
  | array (depth : Nat) (items : List Json) (all : ∀ item ∈ items, Exact depth item) :
      Exact (depth + 1) (.array items)
  | object (depth : Nat) (entries : List (String × Json)) (all : ∀ e ∈ entries, Exact depth e.2) :
      Exact (depth + 1) (.object entries)

-- Each character counts twice, once for a value and once for the item that starts with it.
def Reads {α : Type} (read? : Nat → List Char → Option (α × List Char)) (text : String) (a : α) :
    Prop :=
  ∀ (fuel : Nat) (rest : List Char), 2 * text.toList.length ≤ fuel → Follows rest →
    read? fuel (text.toList ++ rest) = some (a, rest)

theorem toList_print_natCast (n : Nat) : (print (.int n)).toList = Nat.toDigits 10 n :=
  Nat.toList_repr

theorem toList_print_negSucc (n : Nat) :
    (print (.int (Int.negSucc n))).toList = '-' :: Nat.toDigits 10 (n + 1) := by
  have text : print (.int (Int.negSucc n)) = "-" ++ toString (n + 1) := rfl
  simp [text]

def startsValue (c : Char) : Bool :=
  c.isDigit || c == '-' || c == '"' || c == '[' || c == '{' || c == 'n' || c == 't' || c == 'f'

theorem exists_print_eq_cons {depth : Nat} {doc : Json} (exact : Exact depth doc) :
    ∃ c cs, (print doc).toList = c :: cs ∧ startsValue c = true := by
  cases exact with
  | null => exact ⟨'n', _, rfl, rfl⟩
  | bool depth b => cases b <;> exact ⟨_, _, rfl, rfl⟩
  | int depth n =>
    cases n with
    | ofNat n =>
      obtain ⟨c, cs, first, digit, -⟩ := exists_toDigits_eq_cons n
      exact ⟨c, cs, (toList_print_natCast n).trans first, by simp [startsValue, digit]⟩
    | negSucc n => exact ⟨'-', _, toList_print_negSucc n, rfl⟩
  | text depth s => exact ⟨'"', _, toList_quote s, rfl⟩
  | array => exact ⟨'[', _, by simp [print]; rfl, rfl⟩
  | object => exact ⟨'{', _, by simp [print]; rfl, rfl⟩

theorem skipBlanks_of_startsValue {c : Char} (starts : startsValue c = true) (cs : List Char) :
    skipBlanks (c :: cs) = c :: cs := by
  have blank : c ≠ ' ' ∧ c ≠ '\n' ∧ c ≠ '\t' ∧ c ≠ '\r' := by
    refine ⟨?_, ?_, ?_, ?_⟩ <;> rintro rfl <;> exact Bool.noConfusion starts
  simp [skipBlanks, blank]

theorem Reads.of_succ {depth : Nat} {text : String} {doc : Json} {c : Char} {cs : List Char}
    (first : text.toList = c :: cs)
    (step : ∀ (fuel : Nat) (rest : List Char), 2 * cs.length ≤ fuel → Follows rest →
      value? (fuel + 1) depth (c :: (cs ++ rest)) = some (doc, rest)) :
    Reads (value? · depth) text doc := by
  intro fuel rest enough follows
  rw [first] at enough ⊢
  cases fuel with
  | zero => simp at enough
  | succ fuel =>
    simp only [List.length_cons] at enough
    exact step fuel rest (by omega) follows

theorem reads_natCast (depth : Nat) {n : Nat} (fits : Text.word64.holds n = true) :
    Reads (value? · depth) (print (.int n)) (.int n) := by
  obtain ⟨c, cs, first, digit, -⟩ := exists_toDigits_eq_cons n
  have starts : startsValue c = true := by simp [startsValue, digit]
  refine .of_succ ((toList_print_natCast n).trans first) fun fuel rest _ follows => ?_
  have number := number?_toDigits false fits follows
  have other {d : Char} (h : d.isDigit = false) : c ≠ d := ne_of_isDigit digit h
  rw [first, List.cons_append] at number
  rw [value?, skipBlanks_of_startsValue starts]
  split
  case h_8 => exact number
  -- None of the other values starts with a digit.
  all_goals next same => exact absurd (List.cons.inj same).1 (other (by decide))

theorem integerOf_true {n : Nat} (fits : Text.int64.holds (Int.negSucc n) = true) :
    integerOf true (n + 1) = .int (Int.negSucc n) := by
  have value : -((n + 1 : Nat) : Int) = Int.negSucc n := rfl
  rw [integerOf, if_pos rfl, value, if_pos ⟨Nat.succ_ne_zero n, fits⟩]

theorem reads_negSucc (depth : Nat) {n : Nat} (fits : Text.int64.holds (Int.negSucc n) = true) :
    Reads (value? · depth) (print (.int (Int.negSucc n))) (.int (Int.negSucc n)) := by
  refine .of_succ (toList_print_negSucc n) fun fuel rest _ follows => ?_
  have word : Text.word64.holds (n + 1 : Nat) = true := by
    rw [Text.int64_holds_iff] at fits
    rw [Text.word64_holds_iff]
    omega
  rw [value?, skipBlanks_of_startsValue rfl]
  simp only [number?_toDigits true word follows, integerOf_true fits]

theorem reads_null (depth : Nat) : Reads (value? · depth) (print .null) .null :=
  .of_succ rfl fun _ _ _ _ => rfl

theorem reads_bool (depth : Nat) (b : Bool) :
    Reads (value? · depth) (print (.bool b)) (.bool b) := by
  cases b <;> exact .of_succ rfl fun _ _ _ _ => rfl

theorem reads_text (depth : Nat) (s : String) :
    Reads (value? · depth) (print (.text s)) (.text s) := by
  refine .of_succ (toList_quote s) fun fuel rest _ _ => ?_
  rw [value?, skipBlanks_of_startsValue rfl]
  simp [string?_quote]

theorem toList_print_array (items : List Json) :
    (print (.array items)).toList =
      '[' :: ((",".intercalate (items.map print)).toList ++ [']']) := by
  simp [print]

/-- One item after the other is read, separated by commas, up to the closing character. -/
structure ReadsAll {α : Type} (one : Nat → List Char → Option (α × List Char)) (close : Char)
    (all : Nat → List Char → Option (List α × List Char)) : Prop where
  last : ∀ {fuel : Nat} {cs rest : List Char} {a : α},
    one fuel cs = some (a, close :: rest) → all (fuel + 1) cs = some ([a], rest)
  cons : ∀ {fuel : Nat} {cs next rest : List Char} {a : α} {as : List α},
    one fuel cs = some (a, ',' :: next) → all fuel next = some (as, rest) →
      all (fuel + 1) cs = some (a :: as, rest)

theorem ReadsAll.intercalate {α β : Type} {one : Nat → List Char → Option (α × List Char)}
    {close : Char} {all : Nat → List Char → Option (List α × List Char)}
    (reads : ReadsAll one close all) (closes : Follows [close]) (text : β → String) (value : β → α)
    (first : β) (others : List β) (each : ∀ b ∈ first :: others, Reads one (text b) (value b))
    (fuel : Nat) (rest : List Char)
    (enough : 2 * (",".intercalate ((first :: others).map text)).toList.length < fuel) :
    all fuel ((",".intercalate ((first :: others).map text)).toList ++ close :: rest) =
      some ((first :: others).map value, rest) := by
  induction others generalizing first fuel with
  | nil =>
    cases fuel with
    | zero => simp at enough
    | succ fuel =>
      simp only [List.map_cons, List.map_nil, String.intercalate_singleton] at enough ⊢
      exact reads.last (each first (by simp) fuel _ (by omega) closes)
  | cons second others ih =>
    cases fuel with
    | zero => simp at enough
    | succ fuel =>
      have later := ih second (fun b member => each b (List.mem_cons_of_mem first member)) fuel
      simp only [List.map_cons, String.intercalate_cons_cons, String.toList_append,
        List.length_append, List.append_assoc] at enough later ⊢
      have comma : ",".toList = [','] := rfl
      rw [comma, List.length_singleton] at enough
      refine reads.cons (each first (by simp) fuel _ (by omega) (by simp [Follows, comma]))
        (later (by omega))

theorem readsAll_items (depth : Nat) : ReadsAll (value? · depth) ']' (items? · depth) where
  last first := by simp [items?, first, skipBlanks]
  cons first later := by simp [items?, first, later, skipBlanks]

def memberText (e : String × Json) : String :=
  quote e.1 ++ ":" ++ print e.2

theorem toList_print_object (entries : List (String × Json)) :
    (print (.object entries)).toList =
      '{' :: ((",".intercalate (entries.map memberText)).toList ++ ['}']) := by
  have texts : printEntries entries = entries.map memberText := printEntries_eq_map entries
  rw [print, texts]
  simp

def member? (depth fuel : Nat) (cs : List Char) : Option ((String × Json) × List Char) := do
  match skipBlanks cs with
  | '"' :: cs =>
    let (key, cs) ← string? cs
    match skipBlanks cs with
    | ':' :: cs =>
      let (value, cs) ← value? fuel depth cs
      pure ((key, value), cs)
    | _ => none
  | _ => none

theorem members?_succ (fuel depth : Nat) (cs : List Char) :
    members? (fuel + 1) depth cs = (member? depth fuel cs).bind fun (entry, cs) =>
      match skipBlanks cs with
      | ',' :: cs => (members? fuel depth cs).bind fun (rest, cs) => some (entry :: rest, cs)
      | '}' :: cs => some ([entry], cs)
      | _ => none := by
  rw [members?, member?]
  generalize skipBlanks cs = start
  split
  next cs =>
    simp only [Option.bind_eq_bind, Option.pure_def, Option.bind_assoc]
    refine Option.bind_congr fun read _ => ?_
    obtain ⟨key, cs⟩ := read
    dsimp only
    generalize skipBlanks cs = colon
    split
    next cs =>
      change _ = ((value? fuel depth cs).bind fun read => some ((key, read.1), read.2)).bind _
      refine .trans ?_ (Option.bind_assoc _ _ _).symm
      rfl
    next => simp
  next => simp

theorem readsAll_members (depth : Nat) : ReadsAll (member? depth) '}' (members? · depth) where
  last first := by simp [members?_succ, first, skipBlanks]
  cons first later := by simp [members?_succ, first, later, skipBlanks]

theorem reads_member {depth : Nat} {doc value : Json} (key : String)
    (reads : Reads (value? · depth) (print doc) value) :
    Reads (member? depth) (memberText (key, doc)) (key, value) := by
  intro fuel rest enough follows
  simp only [memberText, String.toList_append, List.length_append] at enough ⊢
  have quoted : ∀ cs : List Char, skipBlanks ('"' :: cs) = '"' :: cs := fun _ => rfl
  have colon : ∀ cs : List Char, skipBlanks (':' :: cs) = ':' :: cs := fun _ => rfl
  have reading := reads fuel rest (by omega) follows
  simp [member?, toList_quote, quoted, colon, string?_quote, reading]

theorem exists_intercalate_eq_cons {first : String} {c : Char} {cs : List Char}
    (starts : first.toList = c :: cs) (others : List String) :
    ∃ ds, (",".intercalate (first :: others)).toList = c :: ds := by
  cases others with
  | nil => exact ⟨cs, by simpa using starts⟩
  | cons second others => exact ⟨_, by simp [starts]; rfl⟩

theorem value?_array {fuel depth : Nat} {c : Char} {cs rest : List Char} {items : List Json}
    (starts : startsValue c = true) (h : items? fuel depth (c :: cs) = some (items, rest)) :
    value? (fuel + 1) (depth + 1) ('[' :: c :: cs) = some (.array items, rest) := by
  have closing : c ≠ ']' := by
    rintro rfl
    exact Bool.noConfusion starts
  have bracket := skipBlanks_of_startsValue (c := '[') rfl (c :: cs)
  simp [value?, bracket, skipBlanks_of_startsValue starts, closing, h]

theorem value?_object {fuel depth : Nat} {cs rest : List Char} {entries : List (String × Json)}
    (h : members? fuel depth ('"' :: cs) = some (entries, rest)) :
    value? (fuel + 1) (depth + 1) ('{' :: '"' :: cs) = some (.ofEntries entries, rest) := by
  have brace := skipBlanks_of_startsValue (c := '{') rfl ('"' :: cs)
  have quoted := skipBlanks_of_startsValue (c := '"') rfl cs
  simp [value?, brace, quoted, h]

theorem reads_int (depth : Nat) {n : Int}
    (fits : Text.int64.holds n = true ∨ Text.word64.holds n = true) :
    Reads (value? · depth) (print (.int n)) (.int n) := by
  cases n with
  | ofNat n =>
    refine reads_natCast depth (fits.elim (fun small => ?_) id)
    have fits := (Text.int64_holds_iff n).1 small
    exact (Text.word64_holds_iff n).2 (by omega)
  | negSucc n =>
    refine reads_negSucc depth (fits.elim id fun large => ?_)
    have fits := (Text.word64_holds_iff _).1 large
    omega

theorem reads_array {depth : Nat} {items : List Json}
    (starts : ∀ item ∈ items, ∃ c cs, (print item).toList = c :: cs ∧ startsValue c = true)
    (each : ∀ item ∈ items, Reads (value? · depth) (print item) (sorted item)) :
    Reads (value? · (depth + 1)) (print (.array items)) (.array (items.map sorted)) := by
  refine .of_succ (toList_print_array items) fun fuel rest enough _ => ?_
  cases items with
  | nil => rfl
  | cons item items =>
    obtain ⟨c, cs, first, start⟩ := starts item (by simp)
    obtain ⟨ds, text⟩ := exists_intercalate_eq_cons first (items.map print)
    simp only [List.length_append, List.length_singleton] at enough
    have read := (readsAll_items depth).intercalate (by simp [Follows]) print sorted item items each
      fuel rest (by omega)
    rw [List.map_cons, text, List.cons_append] at read
    rw [List.map_cons, text, List.append_assoc, List.cons_append, List.singleton_append,
      value?_array start read]

theorem reads_object {depth : Nat} {entries : List (String × Json)}
    (each : ∀ e ∈ entries, Reads (value? · depth) (print e.2) (sorted e.2)) :
    Reads (value? · (depth + 1)) (print (.object entries))
      (.ofEntries (entries.map fun e => (e.1, sorted e.2))) := by
  refine .of_succ (toList_print_object entries) fun fuel rest enough _ => ?_
  cases entries with
  | nil => rfl
  | cons e entries =>
    have start : (memberText e).toList =
        '"' :: (e.1.toList.flatMap escapeChar ++ '"' :: ':' :: (print e.2).toList) := by
      simp [memberText, toList_quote]
    obtain ⟨ds, text⟩ := exists_intercalate_eq_cons start (entries.map memberText)
    simp only [List.length_append, List.length_singleton] at enough
    have members : ∀ f ∈ e :: entries, Reads (member? depth) (memberText f) (f.1, sorted f.2) :=
      fun f member => reads_member f.1 (each f member)
    have read := (readsAll_members depth).intercalate (by simp [Follows]) memberText
      (fun f => (f.1, sorted f.2)) e entries members fuel rest (by omega)
    rw [List.map_cons, text, List.cons_append] at read
    rw [List.map_cons, text, List.append_assoc, List.cons_append, List.singleton_append,
      value?_object read]

theorem reads_print {depth : Nat} {doc : Json} (exact : Exact depth doc) :
    Reads (value? · depth) (print doc) (sorted doc) := by
  induction exact with
  | null depth => exact reads_null depth
  | bool depth b => exact reads_bool depth b
  | int depth n fits => exact reads_int depth fits
  | text depth s => exact reads_text depth s
  | array depth items exact ih =>
    rw [sorted, sortedItems_eq_map]
    exact reads_array (fun item member => exists_print_eq_cons (exact item member)) ih
  | object depth entries exact ih =>
    rw [sorted, sortedEntries_eq_map]
    exact reads_object ih

/-- What is printed is read back, with the keys in order. -/
theorem read?_print {doc : Json} (exact : Exact maxDepth doc) :
    read? (print doc) = some (sorted doc) := by
  have follows : Follows [] := by simp [Follows]
  have read : value? (2 * (print doc).toList.length + 2) maxDepth (print doc).toList =
      some (sorted doc, []) := by
    simpa using reads_print exact _ [] (Nat.le_add_right _ 2) follows
  rw [read?]
  simp only [read]
  rfl

theorem Exact.mono {depth deeper : Nat} {doc : Json} (exact : Exact depth doc)
    (le : depth ≤ deeper) : Exact deeper doc := by
  induction exact generalizing deeper with
  | null | bool | text => constructor
  | int depth n fits => exact .int deeper n fits
  | array depth items _ ih =>
    obtain ⟨deeper, rfl⟩ := Nat.exists_eq_add_of_lt le
    exact .array _ items fun item member => ih item member (by omega)
  | object depth entries _ ih =>
    obtain ⟨deeper, rfl⟩ := Nat.exists_eq_add_of_lt le
    exact .object _ entries fun e member => ih e member (by omega)

theorem Exact.sorted_eq {doc : Json} (exact : Exact 0 doc) : doc.sorted = doc := by
  cases exact <;> rfl

theorem Exact.sorted {depth : Nat} {doc : Json} (exact : Exact depth doc) :
    Exact depth doc.sorted := by
  induction exact with
  | null | bool | text => constructor
  | int depth n fits => exact .int depth n fits
  | array depth items exact ih =>
    refine .array depth _ fun item member => ?_
    obtain ⟨before, inside, rfl⟩ := List.mem_map.1 (sortedItems_eq_map items ▸ member)
    exact ih before inside
  | object depth entries exact ih =>
    refine .object depth _ fun e member => ?_
    have written := Keyed.mem_of_mem_ofList member
    obtain ⟨before, inside, rfl⟩ := List.mem_map.1 (sortedEntries_eq_map entries ▸ written)
    exact ih before inside

theorem sorted_sorted {depth : Nat} {doc : Json} (exact : Exact depth doc) :
    doc.sorted.sorted = doc.sorted := by
  induction exact with
  | null | bool | int | text => rfl
  | array depth items exact ih => simpa [Json.sorted] using ih
  | object depth entries exact ih =>
    have still : ∀ e ∈ Keyed.ofList (sortedEntries entries), (e.1, e.2.sorted) = e := by
      intro e member
      have written := Keyed.mem_of_mem_ofList member
      obtain ⟨before, inside, rfl⟩ := List.mem_map.1 (sortedEntries_eq_map entries ▸ written)
      simp [ih before inside]
    have entriesStill := sortedEntries_eq_map (Keyed.ofList (sortedEntries entries))
    rw [List.map_congr_left still, List.map_id'] at entriesStill
    simp only [Json.sorted, ofEntries, entriesStill]
    rw [Keyed.ofList_of_increasing (Keyed.increasing_ofList _)]

end Json

end OracleSql
