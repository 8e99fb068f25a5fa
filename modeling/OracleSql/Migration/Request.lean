import OracleSql.Schema.Attribute
import OracleSql.Session.Failure
import OracleSql.Text.CharacterClass

set_option autoImplicit false

namespace OracleSql

structure Request where
  appliesTo : String
  model : Option String
  description : Option String
  version : String
  add : List Attribute
  -- What changes is found out from `add`, so this has to be empty.
  change : List Attribute
  -- Columns are never dropped, so this has to be empty.
  remove : List Attribute
  deriving DecidableEq

namespace Request

def keys : List String :=
  ["appliesTo", "model", "description", "version", "add", "change", "remove"]

def listEntry (key : String) (attributes : List Attribute) : List (String × Json) :=
  if attributes.isEmpty then [] else [(key, .array (attributes.map Attribute.toJson))]

def toJson (r : Request) : Json :=
  .ofEntries ([("appliesTo", .text r.appliesTo)] ++ Json.entry "model" Json.text r.model ++
    Json.entry "description" Json.text r.description ++
    [("version", .text r.version), ("add", .array (r.add.map Attribute.toJson))] ++
    listEntry "change" r.change ++ listEntry "remove" r.remove)

/-- The values that are there are looked at in the order of their keys, and before missing ones. -/
def decode (doc : Json) : Decoded Request := do
  let attributes := Json.present (Json.decodeList Attribute.decode)
  match ← Json.slots keys doc with
  | [appliesTo, model, description, version, add, change, remove] =>
      let add ← attributes add
      let appliesTo ← Json.present Json.decodeText appliesTo
      let change ← attributes change
      let description ← Json.nullable Json.decodeText description
      let model ← Json.nullable Json.decodeText model
      let remove ← attributes remove
      let version ← Json.present Json.decodeText version
      let appliesTo ← Json.required "appliesTo" appliesTo
      let version ← Json.required "version" version
      pure {
        appliesTo, model, description, version
        add := add.getD []
        change := change.getD []
        remove := remove.getD [] }
  | _ => throw .malformed

def fault? (r : Request) : Option RequestFault :=
  if (Text.trim r.appliesTo).isEmpty then some .noTarget
  else if !r.remove.isEmpty then some .removesColumns
  else if !r.change.isEmpty then some .changesColumns
  else none

end Request

end OracleSql
