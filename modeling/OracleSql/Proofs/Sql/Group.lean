import OracleSql.Proofs.Sql.Part

set_option autoImplicit false

namespace OracleSql.Sql

inductive Piece where
  | token (t : Token)
  | group (content : List Token)
  deriving DecidableEq

namespace Piece

def tokens : Piece → List Token
  | .token t => [t]
  | .group content => .plain '(' :: content ++ [.plain ')']

def isGroup : Piece → Bool
  | .token _ => false
  | .group _ => true

def outline : Piece → Piece
  | .token t => .token t.blank
  | .group _ => .group []

@[simp] theorem isGroup_outline (p : Piece) : p.outline.isGroup = p.isGroup := by
  cases p <;> rfl

end Piece

/-- Where in the parentheses a reader is. Of the outermost group it keeps what it has read. -/
inductive Nest where
  | outside
  | inside (deeper : Nat) (content : List Token)

namespace Nest

def depth : Nest → Nat
  | .outside => 0
  | .inside deeper _ => deeper + 1

def begun : Nest → List Token
  | .outside => []
  | .inside _ content => .plain '(' :: content

def step? : Nest → Token → Option (List Piece × Nest)
  | .outside, t =>
      if t = .plain '(' then some ([], .inside 0 [])
      else if t = .plain ')' then none
      else some ([.token t], .outside)
  | .inside deeper content, t =>
      if t = .plain '(' then some ([], .inside (deeper + 1) (content ++ [t]))
      else if t = .plain ')' then
        match deeper with
        | 0 => some ([.group content], .outside)
        | deeper + 1 => some ([], .inside deeper (content ++ [t]))
      else some ([], .inside deeper (content ++ [t]))

def read? : Nest → List Token → Option (List Piece × Nest)
  | n, [] => some ([], n)
  | n, t :: ts =>
      (n.step? t).bind fun (ps, m) => (m.read? ts).map fun (qs, k) => (ps ++ qs, k)

variable {n m k : Nest} {t : Token} {ts us : List Token} {ps qs : List Piece}

theorem read?_cons (first : n.step? t = some (ps, m)) :
    n.read? (t :: ts) = (m.read? ts).map fun r => (ps ++ r.1, r.2) := by
  rw [read?, first]
  rfl

theorem read?_cons_eq_some (h : n.read? (t :: ts) = some (ps, k)) :
    ∃ first m rest, n.step? t = some (first, m) ∧ m.read? ts = some (rest, k) ∧
      ps = first ++ rest := by
  cases step : n.step? t with
  | none => simp [read?, step] at h
  | some next =>
    obtain ⟨first, m⟩ := next
    rw [read?_cons step, Option.map_eq_some_iff] at h
    obtain ⟨⟨rest, last⟩, later, same⟩ := h
    cases same
    exact ⟨first, m, rest, rfl, later, rfl⟩

theorem read?_append (first : n.read? ts = some (ps, m)) (rest : m.read? us = some (qs, k)) :
    n.read? (ts ++ us) = some (ps ++ qs, k) := by
  induction ts generalizing n ps with
  | nil =>
    cases first
    exact rest
  | cons t ts ih =>
    obtain ⟨p, l, ps, step, later, rfl⟩ := read?_cons_eq_some first
    rw [List.cons_append, read?_cons step, ih later]
    simp

theorem tokens_of_step? (h : n.step? t = some (ps, m)) :
    n.begun ++ [t] = ps.flatMap Piece.tokens ++ m.begun := by
  cases n with
  | outside =>
    simp only [step?] at h
    split at h
    next opens => cases h; simp [begun, opens]
    next =>
      split at h
      next => cases h
      next => cases h; simp [begun, Piece.tokens]
  | inside deeper content =>
    simp only [step?] at h
    split at h
    next => cases h; simp [begun]
    next =>
      split at h
      next closes =>
        split at h
        next => cases h; simp [begun, Piece.tokens, closes]
        next => cases h; simp [begun]
      next => cases h; simp [begun]

theorem tokens_of_read? (h : n.read? ts = some (ps, m)) :
    n.begun ++ ts = ps.flatMap Piece.tokens ++ m.begun := by
  induction ts generalizing n ps with
  | nil =>
    cases h
    simp
  | cons t ts ih =>
    obtain ⟨p, l, ps, step, later, rfl⟩ := read?_cons_eq_some h
    have first := tokens_of_step? step
    have rest := ih later
    calc n.begun ++ t :: ts = (n.begun ++ [t]) ++ ts := by simp
      _ = p.flatMap Piece.tokens ++ (l.begun ++ ts) := by rw [first, List.append_assoc]
      _ = (p ++ ps).flatMap Piece.tokens ++ m.begun := by rw [rest]; simp

theorem not_parenthesis_of_read? (h : n.read? ts = some (ps, m)) (member : Piece.token t ∈ ps) :
    t ≠ .plain '(' ∧ t ≠ .plain ')' := by
  induction ts generalizing n ps with
  | nil =>
    cases h
    cases member
  | cons u ts ih =>
    obtain ⟨p, l, ps, step, later, rfl⟩ := read?_cons_eq_some h
    rcases List.mem_append.1 member with first | rest
    next =>
      cases n with
      | outside =>
        simp only [step?] at step
        split at step
        next => cases step; cases first
        next other =>
          split at step
          next => cases step
          next symbol =>
            cases step
            cases List.mem_singleton.1 first
            exact ⟨other, symbol⟩
      | inside deeper content =>
        simp only [step?] at step
        split at step
        next => cases step; cases first
        next =>
          split at step
          next =>
            split at step
            next => cases step; simp at first
            next => cases step; cases first
          next => cases step; cases first
    next => exact ih later rest

theorem step?_inside (h : n.step? t = some (ps, m)) (deeper : Nat) (content : List Token) :
    (inside (n.depth + deeper) content).step? t =
      some ([], inside (m.depth + deeper) (content ++ [t])) := by
  cases n with
  | outside =>
    simp only [step?] at h
    split at h
    next opens => cases h; simp [step?, depth, opens, Nat.add_comm]
    next other =>
      split at h
      next => cases h
      next plain => cases h; simp [step?, depth, other, plain]
  | inside own _ =>
    simp only [step?] at h
    split at h
    next opens => cases h; simp [step?, depth, opens]; omega
    next other =>
      split at h
      next closes =>
        split at h
        next => cases h; simp [step?, depth, closes, Nat.add_comm]
        next d => 
          cases h
          have one : d + 1 + 1 + deeper = (d + 1 + deeper) + 1 := by omega
          simp [step?, depth, closes, one]
      next plain => cases h; simp [step?, depth, other, plain]

theorem read?_inside (h : n.read? ts = some (ps, m)) (deeper : Nat) (content : List Token) :
    (inside (n.depth + deeper) content).read? ts =
      some ([], inside (m.depth + deeper) (content ++ ts)) := by
  induction ts generalizing n ps content with
  | nil =>
    cases h
    simp [read?]
  | cons t ts ih =>
    obtain ⟨p, l, ps, step, later, rfl⟩ := read?_cons_eq_some h
    rw [read?_cons (step?_inside step deeper content), ih later]
    simp

theorem read?_other {deeper : Nat} {content : List Token}
    (h : (inside deeper content).read? ts = some (ps, .outside)) (other : List Token) :
    ∃ qs, (inside deeper other).read? ts = some (qs, .outside) ∧
      qs.map Piece.outline = ps.map Piece.outline := by
  induction ts generalizing deeper content other ps with
  | nil => cases h
  | cons t ts ih =>
    obtain ⟨p, l, ps, step, later, rfl⟩ := read?_cons_eq_some h
    have go {d : Nat} {rest rest' : List Token} (next : l = inside d rest)
        (step' : (inside deeper other).step? t = some ([], inside d rest')) (none : p = []) :
        ∃ qs, (inside deeper other).read? (t :: ts) = some (qs, .outside) ∧
          qs.map Piece.outline = (p ++ ps).map Piece.outline := by
      subst next none
      obtain ⟨qs, read, same⟩ := ih later rest'
      exact ⟨qs, by rw [read?_cons step', read]; rfl, same⟩
    simp only [step?] at step
    split at step
    next opens => cases step; exact go rfl (by simp [step?, opens]; rfl) rfl
    next plain =>
      split at step
      next closes =>
        split at step
        next =>
          -- the group ends here, and what follows it is read the same way
          cases step
          refine ⟨.group other :: ps, ?_, rfl⟩
          rw [read?_cons (by simp [step?, closes]; exact ⟨rfl, rfl⟩), later]
          rfl
        next => cases step; exact go rfl (by simp [step?, closes]; rfl) rfl
      next symbol => cases step; exact go rfl (by simp [step?, plain, symbol]; rfl) rfl

end Nest

def pieces? (ts : List Token) : Option (List Piece) :=
  match Nest.outside.read? ts with
  | some (ps, .outside) => some ps
  | _ => none

theorem pieces?_eq_some_iff {ts : List Token} {ps : List Piece} :
    pieces? ts = some ps ↔ Nest.outside.read? ts = some (ps, .outside) := by
  unfold pieces?
  split
  next same => simp [same]
  next other =>
    constructor
    next => intro h; cases h
    next => intro h; exact absurd h (other ps)

inductive Lexeme where
  | word (letters : List Char)
  | piece (p : Piece)
  deriving DecidableEq

-- Keywords are read in any case.
def Piece.letter? : Piece → Option Char
  | .token (.plain c) => if c.isAlphanum || c == '_' then some c.toUpper else none
  | _ => none

def prepend (c : Char) : List Lexeme → List Lexeme
  | .word letters :: rest => .word (c :: letters) :: rest
  | rest => .word [c] :: rest

def spelled : List Piece → List Lexeme
  | [] => []
  | p :: ps =>
      match p.letter? with
      | some c => prepend c (spelled ps)
      | none => .piece p :: spelled ps

def blank : Lexeme :=
  .piece (.token (.plain ' '))

-- Blanks only keep words apart.
def lexemes (ps : List Piece) : List Lexeme :=
  (spelled ps).filter (· ≠ blank)

def keyword (name : String) : Lexeme :=
  .word name.toList

section Words

variable {p : Piece} {ps qs : List Piece}

theorem prepend_append_piece (c : Char) (front rest : List Lexeme) :
    prepend c (front ++ .piece p :: rest) = prepend c front ++ .piece p :: rest := by
  cases front with
  | nil => rfl
  | cons first front => cases first <;> rfl

theorem spelled_append (ends : p.letter? = none) :
    spelled (ps ++ p :: qs) = spelled ps ++ .piece p :: spelled qs := by
  induction ps with
  | nil => simp [spelled, ends]
  | cons q ps ih =>
    cases letter : q.letter? with
    | none => simp [spelled, letter, ih]
    | some c => simp [spelled, letter, ih, prepend_append_piece]

theorem mem_of_mem_prepend {c d : Char} {letters : List Char} {rest : List Lexeme}
    (h : Lexeme.word letters ∈ prepend c rest) (member : d ∈ letters) :
    d = c ∨ ∃ others, Lexeme.word others ∈ rest ∧ d ∈ others := by
  unfold prepend at h
  split at h
  next others rest =>
    rcases List.mem_cons.1 h with same | later
    next =>
      cases same
      rcases List.mem_cons.1 member with first | inside
      next => exact .inl first
      next => exact .inr ⟨others, by simp, inside⟩
    next => exact .inr ⟨letters, by simp [later], member⟩
  next =>
    rcases List.mem_cons.1 h with same | later
    next =>
      cases same
      exact .inl (List.mem_singleton.1 member)
    next => exact .inr ⟨letters, later, member⟩

theorem exists_letter_of_mem_spelled {letters : List Char} {c : Char}
    (h : Lexeme.word letters ∈ spelled ps) (member : c ∈ letters) :
    ∃ p ∈ ps, p.letter? = some c := by
  induction ps generalizing letters with
  | nil => cases h
  | cons q ps ih =>
    unfold spelled at h
    split at h
    next d letter =>
      rcases mem_of_mem_prepend h member with rfl | ⟨others, later, inside⟩
      next => exact ⟨q, by simp, letter⟩
      next =>
        obtain ⟨p, inside, same⟩ := ih later inside
        exact ⟨p, by simp [inside], same⟩
    next =>
      have later : Lexeme.word letters ∈ spelled ps := by simpa using h
      obtain ⟨p, inside, same⟩ := ih later member
      exact ⟨p, by simp [inside], same⟩

def Lexeme.outline : Lexeme → Lexeme
  | .word letters => .word letters
  | .piece p => .piece p.outline

theorem Piece.letter?_outline (p : Piece) : p.outline.letter? = p.letter? := by
  cases p with
  | token t => cases t <;> rfl
  | group => rfl

theorem spelled_outline (ps : List Piece) :
    spelled (ps.map Piece.outline) = (spelled ps).map Lexeme.outline := by
  have grow (c : Char) (rest : List Lexeme) :
      prepend c (rest.map Lexeme.outline) = (prepend c rest).map Lexeme.outline := by
    cases rest with
    | nil => rfl
    | cons first rest => cases first <;> rfl
  induction ps with
  | nil => rfl
  | cons p ps ih =>
    cases letter : p.letter? with
    | none => simp [spelled, Piece.letter?_outline, letter, ih, Lexeme.outline]
    | some c => simp [spelled, Piece.letter?_outline, letter, ih, grow]

theorem word_mem_spelled_of_outline {letters : List Char}
    (same : ps.map Piece.outline = qs.map Piece.outline) (h : Lexeme.word letters ∈ spelled ps) :
    Lexeme.word letters ∈ spelled qs := by
  have outlined : Lexeme.word letters ∈ spelled (ps.map Piece.outline) := by
    rw [spelled_outline]
    exact List.mem_map.2 ⟨_, h, rfl⟩
  rw [same, spelled_outline] at outlined
  obtain ⟨lexeme, inside, equal⟩ := List.mem_map.1 outlined
  cases lexeme with
  | word => cases equal; exact inside
  | piece => cases equal

theorem keyword_mem_lexemes_iff {name : String} :
    keyword name ∈ lexemes ps ↔ Lexeme.word name.toList ∈ spelled ps := by
  simp [keyword, lexemes, blank]

theorem lexemes_append (ends : p.letter? = none) :
    lexemes (ps ++ p :: qs) = lexemes ps ++ lexemes (p :: qs) := by
  have first : spelled (p :: qs) = .piece p :: spelled qs := by simp [spelled, ends]
  rw [lexemes, lexemes, lexemes, spelled_append ends, first, List.filter_append]

end Words

/-- Neither a conjunction nor a disjunction, and not a row of groups that could be taken for one. -/
structure Unconnected (ps : List Piece) : Prop where
  noAnd : keyword "AND" ∉ lexemes ps
  noOr : keyword "OR" ∉ lexemes ps
  whole : ps.head?.any Piece.isGroup = true → ps.getLast?.any Piece.isGroup = true →
    ps.length = 1

instance (ps : List Piece) : Decidable (Unconnected ps) :=
  decidable_of_iff (keyword "AND" ∉ lexemes ps ∧ keyword "OR" ∉ lexemes ps ∧
      (ps.head?.any Piece.isGroup = true → ps.getLast?.any Piece.isGroup = true → ps.length = 1))
    ⟨fun h => ⟨h.1, h.2.1, h.2.2⟩, fun h => ⟨h.noAnd, h.noOr, h.whole⟩⟩

namespace Unconnected

variable {ps qs : List Piece}

theorem of_outline (h : Unconnected qs) (same : ps.map Piece.outline = qs.map Piece.outline) :
    Unconnected ps := by
  have ends {f : List Piece → Option Piece} (natural : ∀ rs, f (rs.map Piece.outline) =
      (f rs).map Piece.outline) : (f ps).any Piece.isGroup = (f qs).any Piece.isGroup := by
    have outlined := congrArg (fun rs => (f rs).any Piece.isGroup) same
    simpa [natural, Option.any_map, Function.comp_def] using outlined
  refine ⟨?_, ?_, ?_⟩
  next =>
    rw [keyword_mem_lexemes_iff]
    exact fun member => h.noAnd (keyword_mem_lexemes_iff.2 (word_mem_spelled_of_outline same member))
  next =>
    rw [keyword_mem_lexemes_iff]
    exact fun member => h.noOr (keyword_mem_lexemes_iff.2 (word_mem_spelled_of_outline same member))
  next =>
    intro first last
    have length : ps.length = qs.length := by simpa using congrArg List.length same
    rw [length]
    exact h.whole (by rwa [← ends fun _ => List.head?_map])
      (by rwa [← ends fun _ => List.getLast?_map])

end Unconnected

end OracleSql.Sql
