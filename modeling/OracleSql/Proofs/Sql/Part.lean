import OracleSql.Proofs.Literal.Alike

set_option autoImplicit false

namespace OracleSql.Sql

def plains (s : String) : List Token :=
  s.toList.map Token.plain

@[simp] theorem plains_append (a b : String) : plains (a ++ b) = plains a ++ plains b := by
  simp [plains]

theorem written_plains {s : String} (plain : ∀ c ∈ s.toList, IsPlain c) :
    Written s.toList (plains s) :=
  scan_eq_some_iff.1 (scan_of_plain plain)

theorem written_quote (name : String) :
    Written (Name.quote name).toList [.quoted .name name.toList] :=
  scan_eq_some_iff.1 (scan_quote name)

section Append

variable {a b : String} {ts us : List Token}

theorem Written.append_of_startsPlain (ha : Written a.toList ts) (hb : Written b.toList us)
    (starts : StartsPlain b) : Written (a ++ b).toList (ts ++ us) := by
  rw [String.toList_append]
  exact ha.append hb fun t _ u first => apart_of_startsPlain hb starts t u first

theorem Written.append_of_endsPlain (ha : Written a.toList ts) (hb : Written b.toList us)
    (ends : EndsPlain a) : Written (a ++ b).toList (ts ++ us) := by
  rw [String.toList_append]
  exact ha.append hb fun t last u _ => apart_of_endsPlain ha ends t last u

theorem Written.after (h : Written a.toList ts) (word : String)
    (plain : ∀ c ∈ word.toList, IsPlain c) : Written (word ++ a).toList (plains word ++ ts) :=
  (written_plains plain).append_of_endsPlain h fun c last => plain c (List.mem_of_getLast? last)

theorem Written.before (h : Written a.toList ts) (word : String)
    (plain : ∀ c ∈ word.toList, IsPlain c) : Written (a ++ word).toList (ts ++ plains word) :=
  h.append_of_startsPlain (written_plains plain) fun c first => plain c (List.mem_of_head? first)

theorem Written.between (ha : Written a.toList ts) (hb : Written b.toList us) (word : String)
    (plain : ∀ c ∈ word.toList, IsPlain c) (some : word ≠ "") :
    Written (a ++ word ++ b).toList (ts ++ plains word ++ us) :=
  (ha.before word plain).append_of_endsPlain hb
    (endsPlain_append_of_ne a (fun c last => plain c (List.mem_of_getLast? last)) some)

end Append

theorem written_intercalate {separator : String} (plain : ∀ c ∈ separator.toList, IsPlain c)
    (some : separator ≠ "") {xs : List String} {parts : List (List Token)}
    (h : List.Forall₂ (fun x part => Written x.toList part) xs parts) :
    Written (separator.intercalate xs).toList ((plains separator).intercalate parts) := by
  induction h with
  | nil => exact ⟨rfl, by simp, .nil⟩
  | @cons x part xs parts first rest ih =>
    cases rest with
    | nil => simpa using first
    | cons _ _ =>
      rw [String.intercalate_cons_cons, List.intercalate_cons_cons]
      simpa only [List.append_assoc] using first.between ih separator plain some

def listed (parts : List (List Token)) : List Token :=
  (plains ", ").intercalate parts

theorem listed_cons_cons (part next : List Token) (parts : List (List Token)) :
    listed (part :: next :: parts) = part ++ plains ", " ++ listed (next :: parts) := by
  simp [listed]

theorem written_listed {xs : List String} {parts : List (List Token)}
    (h : List.Forall₂ (fun x part => Written x.toList part) xs parts) :
    Written (", ".intercalate xs).toList (listed parts) :=
  written_intercalate (by decide) (by decide) h

def depthAfter (depth : Nat) : Token → Nat
  | .plain c => if c = '(' then depth + 1 else if c = ')' then depth - 1 else depth
  | .quoted _ _ => depth

-- The depth of parentheses after the tokens, unless a comma outside of them ends the part.
def level : Nat → List Token → Option Nat
  | depth, [] => some depth
  | depth, t :: ts =>
      if depth = 0 ∧ t = .plain ',' then none else level (depthAfter depth t) ts

theorem level_append (depth : Nat) (ts us : List Token) :
    level depth (ts ++ us) = (level depth ts).bind fun inner => level inner us := by
  induction ts generalizing depth with
  | nil => rfl
  | cons t ts ih =>
    simp only [List.cons_append, level]
    split
    next => rfl
    next => exact ih _

def isFlat (c : Char) : Bool :=
  c != '(' && c != ')' && c != ','

theorem level_plains_of_flat {s : String} (flat : ∀ c ∈ s.toList, isFlat c = true) (depth : Nat) :
    level depth (plains s) = some depth := by
  have chars : ∀ cs : List Char, (∀ c ∈ cs, isFlat c = true) →
      level depth (cs.map Token.plain) = some depth := by
    intro cs
    induction cs with
    | nil => exact fun _ => rfl
    | cons c cs ih =>
      intro all
      have first : (c ≠ '(' ∧ c ≠ ')') ∧ c ≠ ',' := by simpa [isFlat] using all c (by simp)
      have rest := ih fun d member => all d (by simp [member])
      simpa [level, depthAfter, first] using rest
  exact chars s.toList flat

theorem level_listed {depth : Nat} {parts : List (List Token)}
    (all : ∀ part ∈ parts, level (depth + 1) part = some (depth + 1)) :
    level (depth + 1) (listed parts) = some (depth + 1) := by
  -- Inside of parentheses a comma ends nothing.
  have comma : level (depth + 1) (plains ", ") = some (depth + 1) := by
    simp [plains, level, depthAfter]
  induction parts with
  | nil => rfl
  | cons part parts ih =>
    have first := all part (by simp)
    have rest := ih fun p member => all p (List.mem_cons_of_mem part member)
    cases parts with
    | nil => simpa [listed] using first
    | cons next parts => simp [listed_cons_cons, level_append, first, comma, rest]

def splitParts : Nat → List Token → List (List Token)
  | _, [] => [[]]
  | depth, t :: ts =>
      if depth = 0 ∧ t = .plain ',' then [] :: splitParts 0 ts
      else
        match splitParts (depthAfter depth t) ts with
        | part :: parts => (t :: part) :: parts
        | [] => [[t]]

theorem splitParts_of_level {depth : Nat} {part : List Token} (whole : level depth part = some 0) :
    splitParts depth part = [part] := by
  induction part generalizing depth with
  | nil => rfl
  | cons t ts ih =>
    simp only [level] at whole
    split at whole
    next => cases whole
    next inner => simp only [splitParts, if_neg inner, ih whole]

theorem splitParts_append {depth : Nat} {part : List Token} (whole : level depth part = some 0)
    (ts : List Token) : splitParts depth (part ++ .plain ',' :: ts) = part :: splitParts 0 ts := by
  induction part generalizing depth with
  | nil =>
    simp only [level, Option.some.injEq] at whole
    simp [splitParts, whole]
  | cons t part ih =>
    simp only [level] at whole
    split at whole
    next => cases whole
    next inner => simp only [List.cons_append, splitParts, if_neg inner, ih whole]

def dropBlank : List Token → List Token
  | .plain ' ' :: ts => ts
  | ts => ts

/-- What can be told from its neighbours in a list. -/
structure IsPart (part : List Token) : Prop where
  whole : level 0 part = some 0
  some : part ≠ []
  starts : part.head? ≠ Option.some (.plain ' ')

theorem IsPart.dropBlank_eq {part : List Token} (h : IsPart part) : dropBlank part = part := by
  unfold dropBlank
  split
  next => exact absurd rfl h.starts
  next => rfl

theorem splitParts_listed {part : List Token} {parts : List (List Token)}
    (all : ∀ p ∈ part :: parts, IsPart p) :
    splitParts 0 (listed (part :: parts)) = part :: parts.map (.plain ' ' :: ·) := by
  induction parts generalizing part with
  | nil => simpa [listed] using splitParts_of_level (all part (by simp)).whole
  | cons next parts ih =>
    have first := all part (by simp)
    have rest := ih fun p member => all p (List.mem_cons_of_mem part member)
    -- Only the first part comes without the blank after its comma.
    have blank : splitParts 0 (.plain ' ' :: listed (next :: parts)) =
        (.plain ' ' :: next) :: parts.map (.plain ' ' :: ·) := by
      simp [splitParts, depthAfter, rest]
    have shape : listed (part :: next :: parts) =
        part ++ .plain ',' :: .plain ' ' :: listed (next :: parts) := by
      rw [listed_cons_cons]
      simp [plains]
    rw [shape, splitParts_append first.whole, blank]
    rfl

def parts? : List Token → Option (List (List Token))
  | .plain '(' :: ts =>
      if ts.getLast? = some (.plain ')') then
        if ts.dropLast = [] then some [] else some ((splitParts 0 ts.dropLast).map dropBlank)
      else none
  | _ => none

def enclosed (parts : List (List Token)) : List Token :=
  plains "(" ++ listed parts ++ plains ")"

theorem parts?_enclosed {parts : List (List Token)} (all : ∀ part ∈ parts, IsPart part) :
    parts? (enclosed parts) = some parts := by
  have shape : enclosed parts = .plain '(' :: (listed parts ++ [.plain ')']) := rfl
  rw [shape]
  cases parts with
  | nil => rfl
  | cons part parts =>
    -- An empty list is read as no part, so a list with parts may not be empty.
    have some : listed (part :: parts) ≠ [] := by
      have first := (all part (by simp)).some
      cases parts with
      | nil => simpa [listed] using first
      | cons => simp [listed_cons_cons, first]
    have inner : (part :: parts.map (.plain ' ' :: ·)).map dropBlank = part :: parts := by
      have rest : dropBlank ∘ (.plain ' ' :: ·) = id := rfl
      simp [(all part (by simp)).dropBlank_eq, rest]
    simp only [parts?, List.getLast?_concat, if_true, List.dropLast_concat, if_neg some,
      splitParts_listed all, inner]

theorem level_enclosed {parts : List (List Token)}
    (all : ∀ part ∈ parts, level 1 part = some 1) : level 0 (enclosed parts) = some 0 := by
  have opening : level 0 (plains "(") = some 1 := by simp [plains, level, depthAfter]
  have closing : level 1 (plains ")") = some 0 := by simp [plains, level, depthAfter]
  simp [enclosed, level_append, opening, level_listed all, closing]

theorem written_enclosed {xs : List String} {parts : List (List Token)}
    (h : List.Forall₂ (fun x part => Written x.toList part) xs parts) :
    Written ("(" ++ ", ".intercalate xs ++ ")").toList (enclosed parts) :=
  ((written_listed h).after "(" (by decide)).before ")" (by decide)

def afterChars? : List Char → List Token → Option (List Token)
  | [], ts => some ts
  | c :: cs, t :: ts => if t = .plain c then afterChars? cs ts else none
  | _ :: _, [] => none

def after? (s : String) (ts : List Token) : Option (List Token) :=
  afterChars? s.toList ts

@[simp] theorem after?_plains (s : String) (ts : List Token) : after? s (plains s ++ ts) = some ts := by
  have chars : ∀ cs : List Char, afterChars? cs (cs.map Token.plain ++ ts) = some ts := by
    intro cs
    induction cs with
    | nil => rfl
    | cons c cs ih => simp [afterChars?, ih]
  exact chars s.toList

theorem mapM_map_eq_some {α β : Type} {xs : List α} {write : α → β} {read? : β → Option α}
    (back : ∀ x ∈ xs, read? (write x) = some x) : (xs.map write).mapM read? = some xs := by
  induction xs with
  | nil => rfl
  | cons x xs ih =>
    have first := back x (by simp)
    have rest := ih fun y member => back y (List.mem_cons_of_mem x member)
    rw [List.map_cons, List.mapM_cons, first, rest]
    rfl

end OracleSql.Sql
