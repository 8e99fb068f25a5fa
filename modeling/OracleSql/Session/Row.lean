import OracleSql.Json.Printer
import OracleSql.Text.CharacterClass
import OracleSql.Text.Number

set_option autoImplicit false

namespace OracleSql

abbrev Row := Keyed Json

namespace Row

-- Engines differ in the case of column names and in whether numbers come as numbers or as text, so
-- columns are looked up leniently.
def sameName (a b : String) : Bool :=
  a.toList.map Char.toLower == b.toList.map Char.toLower

@[simp] theorem sameName_self (a : String) : sameName a a = true := by
  simp [sameName]

/-- The column of exactly that name, or else the first that differs only in case. -/
def value? (row : Row) (column : String) : Option Json :=
  (Keyed.get? row column).orElse fun _ =>
    (row.find? fun e => sameName e.1 column).map Prod.snd

def text? (row : Row) (column : String) : Option String :=
  match row.value? column with
  | some (.text s) => some s
  | some (.int n) => some (toString n)
  | some (.float x) => some (Json.floatText x)
  | some (.bool b) => some (if b then "true" else "false")
  | _ => none

def clamp (n : Int) : Int :=
  max Text.int64.least (min n (Text.int64.bound - 1))

theorem clamp_eq (n : Int) :
    clamp n = max (-9223372036854775808) (min n 9223372036854775807) := rfl

theorem clamp_of_holds {n : Int} (fits : Text.int64.holds n = true) : clamp n = n := by
  rw [Text.int64_holds_iff] at fits
  rw [clamp_eq]
  omega

-- Fractions are cut off, and text is read without the blanks around it.
def int? (row : Row) (column : String) : Option Int :=
  match row.value? column with
  | some (.int n) => some (clamp n)
  | some (.float x) => x.truncate?.map clamp
  | some (.text s) => Text.int64.read? (Text.trimChars Text.isBlank s.toList)
  | some (.bool b) => some (if b then 1 else 0)
  | _ => none

def flag? (row : Row) (column : String) : Option Bool :=
  match row.value? column with
  | some (.bool b) => some b
  | some (.text s) =>
      if s ∈ ["Y", "y", "true", "1"] then some true
      else if s ∈ ["N", "n", "false", "0"] then some false
      else none
  | some _ => (row.int? column).map (· != 0)
  | none => none

end Row

end OracleSql
