import OracleSql.Text.Alphanumeric

set_option autoImplicit false

namespace OracleSql

namespace Name

def doubleQuotes (cs : List Char) : List Char :=
  cs.flatMap fun c => if c = '"' then ['"', '"'] else [c]

def quote (name : String) : String :=
  String.ofList ('"' :: doubleQuotes name.toList ++ ['"'])

def isWordChar (c : Char) : Bool :=
  Text.isAlphanumeric c || c == '_'

-- Quotes are put around each run of word characters; `inWord` says that one is open.
def quoteRuns (inWord : Bool) : List Char → List Char
  | [] => if inWord then ['"'] else []
  | c :: cs =>
      if isWordChar c then
        if inWord then c :: quoteRuns true cs else '"' :: c :: quoteRuns true cs
      else if inWord then '"' :: c :: quoteRuns false cs
      else c :: quoteRuns false cs

/-- Each word of a dotted name is quoted; a name that has quotes already is left alone. -/
def quoteWords (name : String) : String :=
  if name.toList.contains '"' then name else String.ofList (quoteRuns false name.toList)

end Name

structure ColumnRef where
  table : Option String
  column : String
  deriving DecidableEq

namespace ColumnRef

def afterLastDot (cs : List Char) : List Char :=
  (cs.reverse.takeWhile (· != '.')).reverse

def parse (name : String) : ColumnRef :=
  let cs := name.toList
  if cs.contains '.' then
    let column := afterLastDot cs
    ⟨some (String.ofList (cs.take (cs.length - column.length - 1))), String.ofList column⟩
  else ⟨none, name⟩

def qualified (c : ColumnRef) : String :=
  match c.table with
  | some table => table ++ "." ++ c.column
  | none => c.column

end ColumnRef

end OracleSql
