import OracleSql.Instant
import OracleSql.Json.Printer
import OracleSql.Text.Number

set_option autoImplicit false

namespace OracleSql

inductive Value where
  | null
  | bool (b : Bool)
  | int (n : Int)
  | float (x : Double)
  | text (s : String)
  | instant (t : Instant)
  | blob (bytes : List UInt8)
  | array (items : List Value)
  | object (entries : List (String × Value))
  deriving Inhabited

namespace Value

def isNull : Value → Bool
  | .null => true
  | _ => false

def isObject : Value → Bool
  | .object _ => true
  | _ => false

def hexDigits (byte : UInt8) : List Char :=
  [Nat.digitChar (byte.toNat / 16), Nat.digitChar (byte.toNat % 16)].map Char.toUpper

def hex (bytes : List UInt8) : String :=
  String.ofList (bytes.flatMap hexDigits)

mutual

def toJson : Value → Json
  | .null => .null
  | .bool b => .bool b
  | .int n => .int n
  | .float x => if x.isFinite then .float x else .null
  | .text s => .text s
  | .instant t => .text t.isoText
  | .blob bytes => .text (hex bytes)
  | .array items => .array (itemsToJson items)
  | .object entries => .object (entriesToJson entries)

def itemsToJson : List Value → List Json
  | [] => []
  | item :: rest => item.toJson :: itemsToJson rest

def entriesToJson : List (String × Value) → List (String × Json)
  | [] => []
  | (key, value) :: rest => (key, value.toJson) :: entriesToJson rest

end

def toText (value : Value) : String :=
  value.toJson.print

mutual

-- Whole numbers beyond 64 bits with sign become floats.
def ofJson : Json → Value
  | .null => .null
  | .bool b => .bool b
  | .int n => if Text.int64.holds n then .int n else .float (Double.ofInt n)
  | .float x => .float x
  | .text s => .text s
  | .array items => .array (itemsOfJson items)
  | .object entries => .object (entriesOfJson entries)

def itemsOfJson : List Json → List Value
  | [] => []
  | item :: rest => ofJson item :: itemsOfJson rest

def entriesOfJson : List (String × Json) → List (String × Value)
  | [] => []
  | (key, value) :: rest => (key, ofJson value) :: entriesOfJson rest

end

@[simp] theorem itemsToJson_eq_map (items : List Value) : itemsToJson items = items.map toJson := by
  induction items with
  | nil => rfl
  | cons item rest ih => simp [itemsToJson, ih]

end Value

end OracleSql
