import OracleSql.Schema.Change
import OracleSql.Schema.Column
import OracleSql.Text.Split
import OracleSql.Text.UpperCase

set_option autoImplicit false

namespace OracleSql

-- Whether the type is a timestamp in local time, which states its own precision.
def isLocalTimestamp (dataType : String) : Bool :=
  let start := "TIMESTAMP(".toList
  let rest := dataType.toList.drop start.length
  let digits := rest.takeWhile (· != ')')
  start.isPrefixOf dataType.toList && !digits.isEmpty && digits.all Char.isDigit &&
    rest.dropWhile (· != ')') == ") WITH LOCAL TIME ZONE".toList

namespace Column

-- The catalog gives the length of a locator for a large text, never a declared size.
def declaredSize (c : Column) (dataType : String) : Option Int :=
  c.size.filter fun size => decide (0 < size) && dataType != "NCLOB"

def currentType (c : Column) : String :=
  let dataType := Text.upperCase c.dataType
  let nullability := if c.nullable then " NULL" else " NOT NULL"
  let arguments :=
    match c.precision, c.scale with
    | some precision, some scale => "(" ++ toString precision ++ "," ++ toString scale ++ ")"
    | _, _ =>
        if isLocalTimestamp dataType then ""
        else
          match c.declaredSize dataType with
          | some size => "(" ++ toString size ++ ")"
          | none => ""
  dataType ++ arguments ++ nullability

end Column

def Attribute.catalogType (a : Attribute) : String :=
  if Text.startsWith "VARCHAR(" a.nativeType then
    "VARCHAR2(" ++ String.ofList (a.nativeType.toList.drop 8)
  else a.nativeType

structure ColumnDiff where
  add : List Attribute
  change : List Attribute
  deriving DecidableEq

namespace ColumnDiff

def isEmpty (d : ColumnDiff) : Bool :=
  d.add.isEmpty && d.change.isEmpty

def columnOf? (existing : List Column) (a : Attribute) : Option Column :=
  existing.find? fun c => c.name == a.name

def isMissing (existing : List Column) (a : Attribute) : Bool :=
  (columnOf? existing a).isNone

/-- A column of the primary key is never changed. -/
def differs (existing : List Column) (a : Attribute) : Bool :=
  match columnOf? existing a with
  | some c => !c.primary && a.catalogType != c.currentType
  | none => false

def between (requested : List Attribute) (existing : List Column) : ColumnDiff :=
  let stored := Attribute.stored requested
  ⟨stored.filter (isMissing existing), stored.filter (differs existing)⟩

def modification (existing : List Column) (a : Attribute) : Modification where
  target := a
  keepNullability := (columnOf? existing a).any fun c => c.nullable == a.isNullable

def modifications (change : List Attribute) (existing : List Column) : List Modification :=
  change.map (modification existing)

end ColumnDiff

end OracleSql
