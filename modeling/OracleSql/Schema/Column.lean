import OracleSql.Json.Record

set_option autoImplicit false

namespace OracleSql

structure Column where
  name : String
  dataType : String
  ordinal : Int
  size : Option Int
  scale : Option Int
  precision : Option Int
  nullable : Bool
  primary : Bool
  deriving DecidableEq

namespace Column

def keys : List String :=
  ["name", "nativeType", "ordinal", "size", "scale", "precision", "nullable", "primary"]

def toJson (c : Column) : Json :=
  .ofEntries
    [ ("name", .text c.name), ("nativeType", .text c.dataType), ("ordinal", .int c.ordinal),
      ("size", Json.ofOption Json.int c.size), ("scale", Json.ofOption Json.int c.scale),
      ("precision", Json.ofOption Json.int c.precision), ("nullable", .bool c.nullable),
      ("primary", .bool c.primary) ]

def decode (doc : Json) : Decoded Column := do
  match ← Json.slots keys doc with
  | [name, dataType, ordinal, size, scale, precision, nullable, primary] =>
      let name ← Json.present Json.decodeText name
      let dataType ← Json.present Json.decodeText dataType
      let ordinal ← Json.present (Json.decodeInt Text.int64) ordinal
      let size ← Json.nullable (Json.decodeInt Text.int64) size
      let scale ← Json.nullable (Json.decodeInt Text.int64) scale
      let precision ← Json.nullable (Json.decodeInt Text.int64) precision
      let nullable ← Json.present Json.decodeBool nullable
      let primary ← Json.present Json.decodeBool primary
      let name ← Json.required "name" name
      let dataType ← Json.required "nativeType" dataType
      let ordinal ← Json.required "ordinal" ordinal
      let nullable ← Json.required "nullable" nullable
      let primary ← Json.required "primary" primary
      pure ⟨name, dataType, ordinal, size, scale, precision, nullable, primary⟩
  | _ => throw .malformed

end Column

end OracleSql
