import OracleSql.Json.Reader
import OracleSql.Json.Record
import OracleSql.Literal
import OracleSql.Name
import OracleSql.Query.Render

set_option autoImplicit false

namespace OracleSql

/-- How to connect, and how names and dates are written. -/
structure Options where
  host : Option String
  port : Option Nat
  service : Option String
  instanceName : Option String
  serverType : Option String
  -- Wins over the parts above.
  connectString : Option String
  user : Option String
  password : Option String
  schema : Option String
  session : Keyed Json
  logLevel : Option String
  maxNameLength : Option Nat
  dateFormat : Option String

namespace Options

def empty : Options :=
  ⟨none, none, none, none, none, none, none, none, none, [], none, none, none⟩

def keys : List String :=
  ["host", "port", "service", "instance", "type", "connectString", "user", "password", "schema",
    "session", "logLevel", "maxIdentifierLength", "jsonDateFormat"]

def decode (doc : Json) : Decoded Options := do
  match ← Json.slots keys doc with
  | [host, port, service, instanceName, serverType, connectString, user, password, schema, session,
      logLevel, maxNameLength, dateFormat] =>
      let text := Json.nullable Json.decodeText
      let host ← text host
      let port ← Json.nullable (Json.decodeNat 16) port
      let service ← text service
      let instanceName ← text instanceName
      let serverType ← text serverType
      let connectString ← text connectString
      let user ← text user
      let password ← text password
      let schema ← text schema
      let session ← Json.present Json.decodeEntries session
      let logLevel ← text logLevel
      let maxNameLength ← Json.nullable (Json.decodeNat 64) maxNameLength
      let dateFormat ← text dateFormat
      pure {
        host, port, service, instanceName, serverType, connectString, user, password, schema
        logLevel, maxNameLength, dateFormat
        session := session.getD [] }
  | _ => throw .malformed

def read (source : String) : Decoded Options :=
  match Json.read? source with
  | some doc =>
      if ((Json.sourceKeys source).filter keys.contains).Nodup then decode doc
      else .error .malformed
  | none => .error .malformed

-- The password is never written.
def toJson (o : Options) : Json :=
  let text := Json.ofOption Json.text
  .ofEntries
    [ ("host", text o.host), ("port", Json.ofOption Json.ofNat o.port),
      ("service", text o.service), ("instance", text o.instanceName), ("type", text o.serverType),
      ("connectString", text o.connectString), ("user", text o.user), ("schema", text o.schema),
      ("session", .object o.session), ("logLevel", text o.logLevel),
      ("maxIdentifierLength", Json.ofOption Json.ofNat o.maxNameLength),
      ("jsonDateFormat", text o.dateFormat) ]

theorem toJson_password (o : Options) (password : Option String) :
    toJson { o with password } = toJson o := rfl

def part (mark : String) : Option String → String
  | some text => mark ++ text
  | none => ""

def connectText (o : Options) : Option String :=
  match o.connectString with
  | some text => some text
  | none =>
      o.host.map fun host =>
        host ++ part ":" (o.port.map toString) ++ part "/" o.service ++ part ":" o.serverType ++
          part "/" o.instanceName

def defaultNameLength : Nat := 30

/-- A limit that leaves no room before the ending of a sequence name counts as none. -/
def nameLength (o : Options) : Nat :=
  (o.maxNameLength.filter (4 < ·)).getD defaultNameLength

theorem four_lt_nameLength (o : Options) : 4 < o.nameLength := by
  unfold nameLength
  cases h : o.maxNameLength.filter (4 < ·) with
  | none => simp [defaultNameLength]
  | some n => simpa using (Option.filter_eq_some_iff.1 h).2

def settings (o : Options) (offset : Int) : Settings :=
  match o.dateFormat with
  | some dateFormat => { Settings.default offset with dateFormat }
  | none => .default offset

def logsDetails (o : Options) : Bool :=
  match o.logLevel with
  | none => false
  | some level =>
      match Text.word64.read? level.toList with
      | some n => n = 4 || n = 5
      | none => level.toList.map Char.toLower ∈ ["debug".toList, "trace".toList]

def sessionStatements (o : Options) (offset : Int) : List String :=
  o.session.map fun (parameter, value) =>
    "ALTER session SET " ++ Name.quote parameter ++ "=" ++ Literal.escape offset (Value.ofJson value)

end Options

end OracleSql
