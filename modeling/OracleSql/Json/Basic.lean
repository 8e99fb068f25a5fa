import OracleSql.Double.Basic
import OracleSql.Keyed

set_option autoImplicit false

namespace OracleSql

inductive Json where
  | null
  | bool (b : Bool)
  | int (n : Int)
  | float (x : Double)
  | text (s : String)
  | array (items : List Json)
  | object (entries : List (String × Json))
  deriving Inhabited

namespace Json

def ofEntries (entries : List (String × Json)) : Json :=
  .object (Keyed.ofList entries)

def ofOption {α : Type} (write : α → Json) : Option α → Json
  | some a => write a
  | none => .null

def text? : Json → Option String
  | .text s => some s
  | _ => none

def bool? : Json → Option Bool
  | .bool b => some b
  | _ => none

def int? : Json → Option Int
  | .int n => some n
  | _ => none

def nat? : Json → Option Nat
  | .int n => if 0 ≤ n then some n.toNat else none
  | _ => none

def array? : Json → Option (List Json)
  | .array items => some items
  | _ => none

def entries? : Json → Option (Keyed Json)
  | .object entries => some entries
  | _ => none

def get? (doc : Json) (key : String) : Option Json :=
  doc.entries?.bind fun entries => Keyed.get? entries key

def get (doc : Json) (key : String) : Json :=
  (doc.get? key).getD .null

end Json

end OracleSql
