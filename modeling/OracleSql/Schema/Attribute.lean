import OracleSql.Json.Record
import OracleSql.Name

set_option autoImplicit false

namespace OracleSql

inductive AttributeType where
  | boolean | byte | float | integer | number | decimal | currency
  | date | dateTime | time | long | duration
  | text | url | note | json | image | binary | guid | short | counter
  | other (name : String)
  deriving DecidableEq

namespace AttributeType

def known : List (String × AttributeType) :=
  [ ("Boolean", .boolean), ("Byte", .byte), ("Float", .float), ("Integer", .integer),
    ("Number", .number), ("Decimal", .decimal), ("Currency", .currency), ("Date", .date),
    ("DateTime", .dateTime), ("Time", .time), ("Long", .long), ("Duration", .duration),
    ("Text", .text), ("URL", .url), ("Note", .note), ("Json", .json), ("Image", .image),
    ("Binary", .binary), ("Guid", .guid), ("Short", .short), ("Counter", .counter) ]

def name : AttributeType → String
  | .boolean => "Boolean"
  | .byte => "Byte"
  | .float => "Float"
  | .integer => "Integer"
  | .number => "Number"
  | .decimal => "Decimal"
  | .currency => "Currency"
  | .date => "Date"
  | .dateTime => "DateTime"
  | .time => "Time"
  | .long => "Long"
  | .duration => "Duration"
  | .text => "Text"
  | .url => "URL"
  | .note => "Note"
  | .json => "Json"
  | .image => "Image"
  | .binary => "Binary"
  | .guid => "Guid"
  | .short => "Short"
  | .counter => "Counter"
  | .other name => name

def ofName (name : String) : AttributeType :=
  if name = "Url" then .url
  else
    match known.find? fun e => e.1 == name with
    | some (_, type) => type
    | none => .other name

end AttributeType

structure Attribute where
  name : String
  type : AttributeType
  size : Option Nat
  scale : Option Nat
  precision : Option Nat
  -- Nullable unless this says otherwise.
  allowsNull : Option Bool
  primary : Bool
  -- An association to many, which has no column of its own.
  oneToMany : Bool
  deriving DecidableEq

namespace Attribute

def ofType (name : String) (type : AttributeType) : Attribute :=
  ⟨name, type, none, none, none, none, false, false⟩

-- No part of a primary key accepts null.
def isNullable (a : Attribute) : Bool :=
  !a.primary && a.allowsNull != some false

def nullability (a : Attribute) : String :=
  if a.isNullable then " NULL" else " NOT NULL"

def declaredSize (a : Attribute) : Option Nat :=
  a.size.filter (0 < ·)

def numberType (digits places : Nat) : String :=
  "NUMBER(" ++ toString digits ++ "," ++ toString places ++ ")"

def textType (length : Nat) : String :=
  "NVARCHAR2(" ++ toString length ++ ")"

def noteLimit : Nat := 2000

def baseType (a : Attribute) : String :=
  match a.type with
  | .boolean => numberType 1 0
  | .byte => numberType 3 0
  | .short => numberType 5 0
  | .float | .time => numberType 19 4
  | .counter | .long | .other _ => numberType 19 0
  | .currency => numberType (a.declaredSize.getD 19) 4
  | .number | .decimal =>
      match a.declaredSize, a.scale with
      | some size, some scale => numberType size scale
      | _, _ => numberType 19 4
  | .integer =>
      match a.declaredSize with
      | some size => if size ≤ 38 then numberType size 0 else numberType 19 0
      | none => numberType 19 0
  | .date | .dateTime => "TIMESTAMP(6) WITH LOCAL TIME ZONE"
  | .duration => textType (a.declaredSize.getD 48)
  | .text | .url => textType (a.declaredSize.getD 255)
  | .note =>
      let size := a.declaredSize.getD noteLimit
      if noteLimit < size then "NCLOB" else textType size
  | .json => "NCLOB"
  | .image | .binary => "LONG RAW"
  | .guid => "VARCHAR(36)"

def nativeType (a : Attribute) : String :=
  a.baseType ++ a.nullability

def definition (a : Attribute) : String :=
  Name.quote a.name ++ " " ++ a.nativeType

def keys : List String :=
  ["name", "type", "size", "scale", "precision", "nullable", "primary", "oneToMany"]

def toJson (a : Attribute) : Json :=
  .ofEntries ([("name", .text a.name), ("type", .text a.type.name)] ++
    Json.entry "size" Json.ofNat a.size ++ Json.entry "scale" Json.ofNat a.scale ++
    Json.entry "precision" Json.ofNat a.precision ++
    Json.entry "nullable" Json.bool a.allowsNull ++
    [("primary", .bool a.primary), ("oneToMany", .bool a.oneToMany)])

def decode (doc : Json) : Decoded Attribute := do
  match ← Json.slots keys doc with
  | [name, type, size, scale, precision, allowsNull, primary, oneToMany] =>
      let name ← Json.present Json.decodeText name
      let type ← Json.present Json.decodeText type
      let size ← Json.nullable (Json.decodeNat 32) size
      let scale ← Json.nullable (Json.decodeNat 32) scale
      let precision ← Json.nullable (Json.decodeNat 32) precision
      let allowsNull ← Json.nullable Json.decodeBool allowsNull
      let primary ← Json.present Json.decodeBool primary
      let oneToMany ← Json.present Json.decodeBool oneToMany
      let name ← Json.required "name" name
      pure ⟨name, .ofName (type.getD ""), size, scale, precision, allowsNull, primary.getD false,
        oneToMany.getD false⟩
  | _ => throw .malformed

def stored (attributes : List Attribute) : List Attribute :=
  attributes.filter fun a => !a.oneToMany

end Attribute

end OracleSql
