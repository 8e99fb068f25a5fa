import Mathlib.Data.List.Chain

set_option autoImplicit false

namespace OracleSql.Sql

-- The engine's own quoting rules: a literal stands between single quotes, a name between double
-- quotes, and inside either its quote is written twice.
inductive Quoted where
  | literal
  | name
  deriving DecidableEq

def Quoted.mark : Quoted → Char
  | .literal => '\''
  | .name => '"'

def quoted? (c : Char) : Option Quoted :=
  if c = '\'' then some .literal else if c = '"' then some .name else none

@[simp] theorem quoted?_mark (kind : Quoted) : quoted? kind.mark = some kind := by
  cases kind <;> rfl

theorem mark_of_quoted? {c : Char} {kind : Quoted} (h : quoted? c = some kind) :
    c = kind.mark := by
  unfold quoted? at h
  split at h
  next same => cases h; exact same
  next =>
    split at h
    next same => cases h; exact same
    next => cases h

theorem mark_injective {a b : Quoted} (h : a.mark = b.mark) : a = b := by
  have same := congrArg quoted? h
  simpa using same

inductive Token where
  | plain (c : Char)
  | quoted (kind : Quoted) (content : List Char)
  deriving DecidableEq

def doubled (kind : Quoted) (content : List Char) : List Char :=
  content.flatMap fun c => if c = kind.mark then [kind.mark, kind.mark] else [c]

theorem doubled_append (kind : Quoted) (a b : List Char) :
    doubled kind (a ++ b) = doubled kind a ++ doubled kind b := by
  simp [doubled]

namespace Token

def text : Token → List Char
  | .plain c => [c]
  | .quoted kind content => kind.mark :: doubled kind content ++ [kind.mark]

def isProper : Token → Bool
  | .plain c => (quoted? c).isNone
  | .quoted _ _ => true

/-- Two parts with the same quotes, one right after the other, would be read as one. -/
def Apart : Token → Token → Prop
  | .quoted a _, .quoted b _ => a ≠ b
  | _, _ => True

def blank : Token → Token
  | .plain c => .plain c
  | .quoted kind _ => .quoted kind []

end Token

def text (ts : List Token) : List Char :=
  ts.flatMap Token.text

@[simp] theorem text_cons (t : Token) (ts : List Token) : text (t :: ts) = t.text ++ text ts := rfl

theorem text_append (ts us : List Token) : text (ts ++ us) = text ts ++ text us := by
  simp [text]

/-- The tokens are the ones that the text consists of. -/
structure Written (cs : List Char) (ts : List Token) : Prop where
  text_eq : text ts = cs
  proper : ∀ t ∈ ts, t.isProper = true
  apart : ts.IsChain Token.Apart

inductive Region where
  | outside
  | inside (kind : Quoted) (content : List Char)
  -- The last quote ends the part unless another one follows.
  | ending (kind : Quoted) (content : List Char)

namespace Region

def begun : Region → List Char
  | .outside => []
  | .inside kind content => kind.mark :: doubled kind content
  | .ending kind content => kind.mark :: doubled kind content ++ [kind.mark]

def enter (c : Char) : List Token × Region :=
  match quoted? c with
  | some kind => ([], .inside kind [])
  | none => ([.plain c], .outside)

def step : Region → Char → List Token × Region
  | .outside, c => enter c
  | .inside kind content, c =>
      if c = kind.mark then ([], .ending kind content) else ([], .inside kind (content ++ [c]))
  | .ending kind content, c =>
      if c = kind.mark then ([], .inside kind (content ++ [c]))
      else (.quoted kind content :: (enter c).1, (enter c).2)

def finish : Region → Option (List Token)
  | .outside => some []
  | .inside _ _ => none
  | .ending kind content => some [.quoted kind content]

end Region

def scanFrom : Region → List Char → Option (List Token)
  | r, [] => r.finish
  | r, c :: cs => (scanFrom (r.step c).2 cs).map ((r.step c).1 ++ ·)

/-- None when the text ends inside a literal or a name. -/
def scan (cs : List Char) : Option (List Token) :=
  scanFrom .outside cs

theorem scanFrom_inside (kind : Quoted) (before content rest : List Char) :
    scanFrom (.inside kind before) (doubled kind content ++ kind.mark :: rest) =
      scanFrom (.ending kind (before ++ content)) rest := by
  induction content generalizing before with
  | nil => simp [doubled, scanFrom, Region.step]
  | cons c content ih =>
    have later := ih (before ++ [c])
    simp only [doubled, List.append_assoc, List.singleton_append] at later
    -- A quote inside is doubled, and its second half leads back inside.
    by_cases same : c = kind.mark
    next =>
      subst same
      simpa [doubled, scanFrom, Region.step, Function.comp_def] using later
    next => simpa [doubled, scanFrom, Region.step, same, Function.comp_def] using later

theorem scanFrom_ending (kind : Quoted) (content cs : List Char) (other : cs.head? ≠ some kind.mark) :
    scanFrom (.ending kind content) cs = (scan cs).map (.quoted kind content :: ·) := by
  cases cs with
  | nil => rfl
  | cons c cs =>
    have differs : c ≠ kind.mark := by simpa using other
    simp [scan, scanFrom, Region.step, differs, Function.comp_def]

theorem head?_text_ne_mark {kind : Quoted} {content : List Char} {ts : List Token}
    (proper : ∀ t ∈ ts, t.isProper = true)
    (apart : (Token.quoted kind content :: ts).IsChain Token.Apart) :
    (text ts).head? ≠ some kind.mark := by
  cases ts with
  | nil => simp [text]
  | cons t ts =>
    cases t with
    | plain c =>
      intro same
      have plain := proper (.plain c) (by simp)
      have equal : c = kind.mark := by simpa [Token.text] using same
      simp [Token.isProper, equal] at plain
    | quoted other _ =>
      intro same
      have differs : kind ≠ other := (List.isChain_cons_cons.1 apart).1
      have equal : other.mark = kind.mark := by simpa [Token.text] using same
      exact differs (mark_injective equal).symm

theorem scan_text {ts : List Token} (proper : ∀ t ∈ ts, t.isProper = true)
    (apart : ts.IsChain Token.Apart) : scan (text ts) = some ts := by
  induction ts with
  | nil => rfl
  | cons t ts ih =>
    have rest := ih (fun u member => proper u (by simp [member])) apart.tail
    cases t with
    | plain c =>
      have plain : quoted? c = none := by simpa [Token.isProper] using proper (.plain c) (by simp)
      have from_outside : scanFrom .outside (text ts) = some ts := rest
      simp [scan, scanFrom, Token.text, Region.step, Region.enter, plain, from_outside]
    | quoted kind content =>
      -- The closing quote ends the token, as the next one does not start with the same.
      have other := head?_text_ne_mark (fun u member => proper u (by simp [member])) apart
      have body : scanFrom (.inside kind []) (doubled kind content ++ kind.mark :: text ts) =
          some (.quoted kind content :: ts) := by
        rw [scanFrom_inside, scanFrom_ending kind _ _ other, rest]
        rfl
      simp [scan, scanFrom, Token.text, Region.step, Region.enter, body]

theorem enter_cases (c : Char) :
    (∃ kind, c = kind.mark ∧ Region.enter c = ([], .inside kind [])) ∨
      quoted? c = none ∧ Region.enter c = ([.plain c], .outside) := by
  unfold Region.enter
  cases h : quoted? c with
  | some kind => exact .inl ⟨kind, mark_of_quoted? h, rfl⟩
  | none => exact .inr ⟨rfl, rfl⟩

theorem doubled_mark (kind : Quoted) : doubled kind [kind.mark] = [kind.mark, kind.mark] := by
  simp [doubled]

theorem doubled_other {kind : Quoted} {c : Char} (h : c ≠ kind.mark) : doubled kind [c] = [c] := by
  simp [doubled, h]

theorem written_of_scanFrom {r : Region} {cs : List Char} {ts : List Token}
    (h : scanFrom r cs = some ts) : Written (r.begun ++ cs) ts := by
  -- No character is lost: the tokens are what was begun and what followed.
  induction cs generalizing r ts with
  | nil =>
    cases r with
    | outside =>
      cases h
      exact ⟨rfl, by simp, .nil⟩
    | inside => cases h
    | ending kind content =>
      cases h
      exact ⟨by simp [text, Token.text, Region.begun], by simp [Token.isProper], .singleton _⟩
  | cons c cs ih =>
    simp only [scanFrom, Option.map_eq_some_iff] at h
    obtain ⟨us, later, rfl⟩ := h
    have rest := ih later
    cases r with
    | outside =>
      rcases enter_cases c with ⟨kind, rfl, entered⟩ | ⟨plain, entered⟩
      next =>
        simp only [Region.step, entered] at rest ⊢
        simpa [Region.begun, doubled] using rest
      next =>
        simp only [Region.step, entered] at rest ⊢
        refine ⟨by simpa [Token.text, Region.begun] using rest.text_eq, ?_, ?_⟩
        next => simpa [Token.isProper, plain] using rest.proper
        next => exact List.isChain_cons.2 ⟨fun _ _ => trivial, rest.apart⟩
    | inside kind content =>
      by_cases same : c = kind.mark
      next =>
        simp only [Region.step, same, if_true] at rest ⊢
        simpa [Region.begun] using rest
      next =>
        simp only [Region.step, same, if_false] at rest ⊢
        simpa [Region.begun, doubled_append, doubled_other same] using rest
    | ending kind content =>
      by_cases same : c = kind.mark
      next =>
        simp only [Region.step, same, if_true] at rest ⊢
        simpa [Region.begun, doubled_append, doubled_mark] using rest
      next =>
        simp only [Region.step, same, if_false] at rest ⊢
        rcases enter_cases c with ⟨other, rfl, entered⟩ | ⟨plain, entered⟩
        next =>
          simp only [entered] at rest ⊢
          refine ⟨by simpa [Token.text, Region.begun, doubled] using rest.text_eq, ?_, ?_⟩
          next => simpa [Token.isProper] using rest.proper
          next =>
            refine List.isChain_cons.2 ⟨?_, rest.apart⟩
            -- the first of the later tokens starts with the mark of the other kind
            intro t first
            cases t with
            | plain => trivial
            | quoted next _ =>
              intro equal
              subst equal
              have starts := congrArg List.head? rest.text_eq
              cases us with
              | nil => cases first
              | cons u us =>
                cases first
                have marks : kind.mark = other.mark := by
                  simpa [Token.text, Region.begun] using starts
                exact same marks.symm
        next =>
          simp only [entered] at rest ⊢
          refine ⟨by simpa [Token.text, Region.begun] using rest.text_eq, ?_, ?_⟩
          next => simpa [Token.isProper, plain] using rest.proper
          next =>
            refine List.isChain_cons.2 ⟨by simp [Token.Apart], ?_⟩
            exact List.isChain_cons.2 ⟨fun _ _ => trivial, rest.apart⟩

theorem scan_eq_some_iff {cs : List Char} {ts : List Token} :
    scan cs = some ts ↔ Written cs ts := by
  constructor
  next => exact fun h => written_of_scanFrom h
  next =>
    rintro ⟨rfl, proper, apart⟩
    exact scan_text proper apart

end OracleSql.Sql
