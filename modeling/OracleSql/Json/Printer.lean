import OracleSql.Double.Text
import OracleSql.Json.Basic

set_option autoImplicit false

namespace OracleSql.Json

def hexDigit (n : Nat) : Char :=
  Nat.digitChar n

def escapeChar (c : Char) : List Char :=
  match c with
  | '"' => ['\\', '"']
  | '\\' => ['\\', '\\']
  | '\n' => ['\\', 'n']
  | '\r' => ['\\', 'r']
  | '\t' => ['\\', 't']
  | '\x08' => ['\\', 'b']
  | '\x0c' => ['\\', 'f']
  | c =>
      if c.toNat < 0x20 then
        ['\\', 'u', '0', '0', hexDigit (c.toNat / 16), hexDigit (c.toNat % 16)]
      else [c]

def quote (s : String) : String :=
  String.ofList ('"' :: s.toList.flatMap escapeChar ++ ['"'])

-- Neither infinities nor not-a-number can be written as a number.
def floatText : Double → String
  | .finite negative code => Double.finiteText Double.documentStyle negative code
  | _ => "null"

mutual

def print : Json → String
  | .null => "null"
  | .bool b => if b then "true" else "false"
  | .int n => toString n
  | .float x => floatText x
  | .text s => quote s
  | .array items => "[" ++ ",".intercalate (printItems items) ++ "]"
  | .object entries =>
      String.singleton '{' ++ ",".intercalate (printEntries entries) ++ String.singleton '}'

def printItems : List Json → List String
  | [] => []
  | item :: rest => print item :: printItems rest

def printEntries : List (String × Json) → List String
  | [] => []
  | (key, value) :: rest => (quote key ++ ":" ++ print value) :: printEntries rest

end

@[simp] theorem printItems_eq_map (items : List Json) : printItems items = items.map print := by
  induction items with
  | nil => rfl
  | cons item rest ih => simp [printItems, ih]

@[simp] theorem printEntries_eq_map (entries : List (String × Json)) :
    printEntries entries = entries.map fun e => quote e.1 ++ ":" ++ print e.2 := by
  induction entries with
  | nil => rfl
  | cons e rest ih => simp [printEntries, ih]

end OracleSql.Json
