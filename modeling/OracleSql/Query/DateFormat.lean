import OracleSql.Instant
import OracleSql.Text.CharacterClass

set_option autoImplicit false

namespace OracleSql

-- The format model by which timestamps inside documents are read. It depends on how such timestamps
-- are written: in universal time, or with a numeric offset.
def universalDateFormat : String :=
  "YYYY-MM-DD\"T\"HH24:MI:SS.FF3\"Z\""

def offsetDateFormat : String :=
  "YYYY-MM-DD\"T\"HH24:MI:SS.FF3TZH:TZM"

inductive LayoutPart where
  | digits (count : Nat)
  | mark (c : Char)

def matchLayout? : List LayoutPart → List Char → Option (List Char)
  | [], cs => some cs
  | .digits n :: parts, cs =>
      if n ≤ cs.length ∧ (cs.take n).all Text.isDecimalDigit then matchLayout? parts (cs.drop n)
      else none
  | .mark m :: parts, c :: cs => if c = m then matchLayout? parts cs else none
  | .mark _ :: _, [] => none

def dateTimeLayout : List LayoutPart :=
  [.digits 4, .mark '-', .digits 2, .mark '-', .digits 2, .mark 'T', .digits 2, .mark ':',
    .digits 2, .mark ':', .digits 2]

-- A point and one or more digits may follow the seconds.
def dropFraction : List Char → List Char
  | '.' :: c :: cs =>
      if Text.isDecimalDigit c then cs.dropWhile Text.isDecimalDigit else '.' :: c :: cs
  | cs => cs

def isOffset : List Char → Bool
  | sign :: cs =>
      (sign == '+' || sign == '-') &&
        (matchLayout? [.digits 2, .mark ':', .digits 2] cs).any List.isEmpty
  | [] => false

def hasOffset (sample : String) : Bool :=
  match matchLayout? dateTimeLayout sample.toList with
  | some rest => isOffset (dropFraction rest)
  | none => false

def dateFormatOf (sample : String) : String :=
  if hasOffset sample then offsetDateFormat else universalDateFormat

def defaultDateFormat : String :=
  dateFormatOf (Instant.isoText ⟨0, 0⟩)

end OracleSql
