import OracleSql.CommandLine.Arguments
import OracleSql.Migration.Request
import OracleSql.Options
import OracleSql.Query.Reader
import OracleSql.Schema.Change
import OracleSql.Schema.ObjectName

set_option autoImplicit false

namespace OracleSql

namespace CommandLine

structure Output where
  code : Nat
  out : String
  err : String
  deriving DecidableEq

def succeed (out : String) : Output :=
  ⟨0, out, ""⟩

def abort (out message : String) : Output :=
  ⟨1, out, "Error: " ++ message ++ "\n"⟩

def finishWith (log : String) : Except String String → Output
  | .ok out => succeed (log ++ out)
  | .error message => abort log message

def Given.options (g : Given) (files : String → Option String) : Except String Options := do
  let base ← match g.optionsFile with
    | none => pure Options.empty
    | some file =>
        match (files file).map Options.read with
        | some (.ok options) => pure options
        | _ => throw ("invalid options in " ++ file)
  pure {
    base with
    schema := g.schema.orElse fun _ => base.schema
    maxNameLength := g.nameLength.orElse fun _ => base.maxNameLength
    dateFormat := g.dateFormat.orElse fun _ => base.dateFormat }

def document (files : String → Option String) (file : String) : Except String Json :=
  match files file with
  | none => .error ("cannot read " ++ file)
  | some source =>
      match Json.read? source with
      | some doc => .ok doc
      | none => .error ("invalid JSON in " ++ file)

def checked {α : Type} : Checked α → Except String α
  | .ok a => .ok a
  | .error e => .error e.message

def decoded {α : Type} : Decoded α → Except String α
  | .ok a => .ok a
  | .error fault => .error fault.message

def lines (items : List String) : String :=
  "".intercalate (items.map fun item => item ++ "\n")

def counters (attributes : List Attribute) : List Attribute :=
  attributes.filter fun a => a.primary && a.type == .counter

/-- What would be executed if the table of the request were not there. -/
def creationStatements (options : Options) (r : Request) : List String :=
  let table := ObjectName.resolve r.appliesTo options.schema
  let sequence (a : Attribute) :=
    SchemaChange.createSequence (sequenceName table.name a.name options.nameLength)
  (SchemaChange.createTable table r.add).statements ++
    (counters r.add).flatMap fun a => (sequence a).statements

def migrationText (options : Options) (files : String → Option String) (file : String) :
    Except String String := do
  let doc ← document files file
  let request ← decoded (Request.decode doc)
  pure (lines ((creationStatements options request).map (· ++ ";")))

-- The file holds one attribute or a list of them.
def typeText (files : String → Option String) (file : String) : Except String String := do
  let doc ← document files file
  let attributes ← match doc with
    | .array items => decoded (items.mapM Attribute.decode)
    | doc => decoded ((Attribute.decode doc).map fun a => [a])
  pure (lines (attributes.map fun a => a.name ++ " " ++ a.nativeType))

def statementOf (files : String → Option String) (file : String) : Except String Statement := do
  let doc ← document files file
  checked (Statement.read doc)

-- The statement is announced before it is rendered.
def formatFile (verbose : Bool) (options : Options) (offset : Int)
    (files : String → Option String) (file : String) : Output :=
  match statementOf files file with
  | .error message => abort "" message
  | .ok statement =>
      let log := if verbose then lines ["DEBUG Compiling query file=" ++ file] else ""
      finishWith log (checked ((statement.render (options.settings offset)).map fun sql => lines [sql]))

def run (offset : Int) (files : String → Option String) (g : Given) (c : Command) : Output :=
  match g.options files with
  | .error message => abort "" message
  | .ok options =>
      match c with
      | .format file => formatFile (g.verbose || options.logsDetails) options offset files file
      | .migrationText file => finishWith "" (migrationText options files file)
      | .typeOf file => finishWith "" (typeText files file)
      | .sequenceName entity column =>
          succeed (lines [sequenceName entity column options.nameLength])

def versionText : String := "oxide-oracle 0.1.0"

def usageText : String :=
  "Usage: oxide-oracle [OPTIONS] <COMMAND>\n\n" ++
  "Commands:\n" ++
  "  format <QUERY>\n" ++
  "  sql-migrate <MIGRATION>\n" ++
  "  type <FIELD>\n" ++
  "  sequence-name <ENTITY> <ATTRIBUTE>\n\n" ++
  "Options:\n" ++
  "  -o, --options <OPTIONS>\n" ++
  "      --schema <SCHEMA>\n" ++
  "      --max-identifier-length <MAX_IDENTIFIER_LENGTH>\n" ++
  "      --json-date-format <JSON_DATE_FORMAT>\n" ++
  "  -v, --verbose\n" ++
  "  -h, --help\n" ++
  "  -V, --version\n"

def stopOutput : Stop → Output
  | .help => succeed usageText
  | .version => succeed (versionText ++ "\n")
  | .misuse => ⟨2, "", usageText⟩

def filesOf (g : Given) (c : Command) : List String :=
  g.optionsFile.toList ++
    match c with
    | .format file | .migrationText file | .typeOf file => [file]
    | .sequenceName _ _ => []

end CommandLine

end OracleSql
