import OracleSql.Json.Basic
import OracleSql.Text.Number

set_option autoImplicit false

namespace OracleSql

inductive RecordFault where
  | missing (key : String)
  | malformed
  deriving DecidableEq

def RecordFault.message : RecordFault → String
  | .missing key => "missing field `" ++ key ++ "`"
  | .malformed => "unexpected value"

abbrev Decoded (α : Type) := Except RecordFault α

namespace Json

-- A record is written as an object, in which unknown keys are ignored, or as an array of its values
-- in the order of its keys, in which the last ones may be left out.
def slots (keys : List String) : Json → Decoded (List (Option Json))
  | .object entries => .ok (keys.map (Keyed.get? entries))
  | .array items =>
      if items.length ≤ keys.length then
        .ok (items.map some ++ List.replicate (keys.length - items.length) none)
      else .error .malformed
  | _ => .error .malformed

def decodeText : Json → Decoded String
  | .text s => .ok s
  | _ => .error .malformed

def decodeBool : Json → Decoded Bool
  | .bool b => .ok b
  | _ => .error .malformed

def decodeInt (width : Text.Width) : Json → Decoded Int
  | .int n => if width.holds n then .ok n else .error .malformed
  | _ => .error .malformed

def decodeNat (bits : Nat) (doc : Json) : Decoded Nat :=
  (decodeInt ⟨false, bits⟩ doc).map Int.toNat

def decodeList {α : Type} (decode : Json → Decoded α) : Json → Decoded (List α)
  | .array items => items.mapM decode
  | _ => .error .malformed

def decodeEntries : Json → Decoded (Keyed Json)
  | .object entries => .ok entries
  | _ => .error .malformed

-- A value that is not there is none; one that is there has to be of the right form.
def present {α : Type} (decode : Json → Decoded α) : Option Json → Decoded (Option α)
  | none => .ok none
  | some doc => (decode doc).map some

def nullable {α : Type} (decode : Json → Decoded α) : Option Json → Decoded (Option α)
  | none | some .null => .ok none
  | some doc => (decode doc).map some

def required {α : Type} (key : String) : Option α → Decoded α
  | some a => .ok a
  | none => .error (.missing key)

def entry {α : Type} (key : String) (write : α → Json) : Option α → List (String × Json)
  | some a => [(key, write a)]
  | none => []

def ofNat (n : Nat) : Json := .int n

end Json

end OracleSql
