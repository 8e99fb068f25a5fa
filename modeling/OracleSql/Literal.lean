import OracleSql.Value

set_option autoImplicit false

namespace OracleSql.Literal

-- A literal is text between single quotes in which every quote is doubled. Text that was escaped
-- with backslashes before is unfolded first.

-- A backslash before a quote of either kind or before a backslash is dropped.
def fold : List Char → List Char
  | '\\' :: '\'' :: cs => '\'' :: fold cs
  | '\\' :: '"' :: cs => '"' :: fold cs
  | '\\' :: '\\' :: cs => '\\' :: fold cs
  | c :: cs => c :: fold cs
  | [] => []

-- Runs of quotes are made even; `odd` says that the run so far has an odd length.
def evenRuns (odd : Bool) : List Char → List Char
  | [] => if odd then ['\''] else []
  | c :: cs =>
      if c = '\'' then c :: evenRuns (!odd) cs
      else if odd then '\'' :: c :: evenRuns false cs
      else c :: evenRuns false cs

def normalize (cs : List Char) : List Char :=
  evenRuns false (fold cs)

def hasEvenRuns (odd : Bool) : List Char → Bool
  | [] => !odd
  | c :: cs => if c = '\'' then hasEvenRuns (!odd) cs else !odd && hasEvenRuns false cs

theorem hasEvenRuns_evenRuns (odd : Bool) (cs : List Char) :
    hasEvenRuns odd (evenRuns odd cs) = true := by
  induction cs generalizing odd with
  | nil => cases odd <;> rfl
  | cons c cs ih =>
    by_cases h : c = '\''
    next => simp [evenRuns, hasEvenRuns, h, ih]
    next => cases odd <;> simp [evenRuns, hasEvenRuns, h, ih]

def inner? : List Char → Option (List Char)
  | '\'' :: cs =>
      match cs.reverse with
      | '\'' :: body => some body.reverse
      | _ => none
  | _ => none

def isClosed (cs : List Char) : Bool :=
  match inner? cs with
  | some body => hasEvenRuns false body
  | none => false

def escapeInner (s : String) : String :=
  String.ofList (normalize s.toList)

/-- A text that is one closed literal already stays as it is. -/
def escapeText (s : String) : String :=
  if isClosed s.toList then s else "'" ++ escapeInner s ++ "'"

def ofText (unquoted : Bool) (s : String) : String :=
  if unquoted then escapeInner s else escapeText s

/-- The instant as the clock of an offset shows it, at most 999 milliseconds after the second. -/
def ofInstant (t : Instant) (offset : Int) : String :=
  let l := t.atOffset offset
  let minutes := offset.natAbs / 60
  "TO_TIMESTAMP_TZ('" ++ padded 4 l.date.year ++ "-" ++ padded 2 l.date.month ++ "-" ++
    padded 2 l.date.day ++ " " ++ padded 2 l.hour ++ ":" ++ padded 2 l.minute ++ ":" ++
    padded 2 l.second ++ "." ++ padded 3 (min (l.nanos / 1000000) 999 : Nat) ++
    (if offset < 0 then "-" else "+") ++ padded 2 (minutes / 60 : Nat) ++ ":" ++
    padded 2 (minutes % 60 : Nat) ++ "', 'YYYY-MM-DD HH24:MI:SS.FF3TZH:TZM')"

mutual

/-- Oracle has no boolean and no infinite literal. Arrays and objects are document literals, but an
array that holds an object is a list of literals. -/
def ofValue (offset : Int) (unquoted : Bool) : Value → String
  | .null => "NULL"
  | .bool b => if b then "1" else "0"
  | .int n => toString n
  | .float x => if x.isFinite then x.plainText else "NULL"
  | .text s => ofText unquoted s
  | .instant t => ofInstant t offset
  | .blob bytes => "HEXTORAW('" ++ Value.hex bytes ++ "')"
  | .array items =>
      if items.any Value.isObject then ", ".intercalate (ofValues offset unquoted items)
      else ofText unquoted (Value.array items).toText
  | .object entries => ofText unquoted (Value.object entries).toText

def ofValues (offset : Int) (unquoted : Bool) : List Value → List String
  | [] => []
  | item :: rest => ofValue offset unquoted item :: ofValues offset unquoted rest

end

def escape (offset : Int) (value : Value) : String :=
  ofValue offset false value

@[simp] theorem ofValues_eq_map (offset : Int) (unquoted : Bool) (items : List Value) :
    ofValues offset unquoted items = items.map (ofValue offset unquoted) := by
  induction items with
  | nil => rfl
  | cons item rest ih => simp [ofValues, ih]

/-- Question marks outside literals take the parameters in order; those left over stay. -/
def fillChars (offset : Int) (inLiteral : Bool) : List Char → List Value → List Char
  | [], _ => []
  | c :: cs, params =>
      if c = '\'' then c :: fillChars offset (!inLiteral) cs params
      else if c = '?' ∧ ¬inLiteral then
        match params with
        | value :: params => (escape offset value).toList ++ fillChars offset inLiteral cs params
        | [] => c :: fillChars offset inLiteral cs []
      else c :: fillChars offset inLiteral cs params

theorem fillChars_nil (offset : Int) (inLiteral : Bool) (cs : List Char) :
    fillChars offset inLiteral cs [] = cs := by
  induction cs generalizing inLiteral with
  | nil => rfl
  | cons c cs ih =>
    simp only [fillChars, ih]
    split <;> simp

def prepare (offset : Int) (sql : String) (params : List Value) : String :=
  String.ofList (fillChars offset false sql.toList params)

end OracleSql.Literal
