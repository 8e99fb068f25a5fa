import OracleSql.Text.CharacterClass
import OracleSql.Text.Number
import OracleSql.Text.Split

set_option autoImplicit false

namespace OracleSql.Version

-- Versions are compared segment by segment: as numbers where both segments are numbers, otherwise
-- as texts. A missing segment counts as zero.
def segments (version : String) : List String :=
  Text.splitText '.' (Text.trim version)

def compareSegment (a b : String) : Ordering :=
  match Text.word64.read? a.toList, Text.word64.read? b.toList with
  | some m, some n => compare m n
  | _, _ => compare a b

def compareSegments : List String → List String → Ordering
  | [], [] => .eq
  | a :: as, [] => (compareSegment a "0").then (compareSegments as [])
  | [], b :: bs => (compareSegment "0" b).then (compareSegments [] bs)
  | a :: as, b :: bs => (compareSegment a b).then (compareSegments as bs)

protected def compare (a b : String) : Ordering :=
  compareSegments (segments a) (segments b)

def initial : String := "0.0"

-- A later version takes the place of an earlier one unless that is greater.
def max (a b : String) : String :=
  match Version.compare a b with
  | .gt => a
  | _ => b

def latest : List String → String
  | [] => initial
  | first :: rest => rest.foldl max first

end OracleSql.Version
