import OracleSql.Text.Number
import OracleSql.Text.Split

set_option autoImplicit false

namespace OracleSql.CommandLine

inductive Command where
  | format (file : String)
  | migrationText (file : String)
  | typeOf (file : String)
  | sequenceName (entity column : String)
  deriving DecidableEq

inductive Setting where
  | optionsFile
  | schema
  | nameLength
  | dateFormat
  deriving DecidableEq

namespace Setting

def all : List Setting :=
  [.optionsFile, .schema, .nameLength, .dateFormat]

def longName : Setting → String
  | .optionsFile => "options"
  | .schema => "schema"
  | .nameLength => "max-identifier-length"
  | .dateFormat => "json-date-format"

def variableName : Setting → String
  | .optionsFile => "ORACLE_OPTIONS"
  | .schema => "ORACLE_SCHEMA"
  | .nameLength => "ORACLE_MAX_IDENTIFIER_LENGTH"
  | .dateFormat => "ORACLE_JSON_DATE_FORMAT"

def named? (name : String) : Option Setting :=
  all.find? fun s => s.longName == name

end Setting

structure Given where
  optionsFile : Option String
  schema : Option String
  nameLength : Option Nat
  dateFormat : Option String
  verbose : Bool
  deriving DecidableEq

inductive Stop where
  | help
  | version
  | misuse
  deriving DecidableEq

abbrev Parsed (α : Type) := Except Stop α

namespace Given

def nothing : Given :=
  ⟨none, none, none, none, false⟩

def has (g : Given) : Setting → Bool
  | .optionsFile => g.optionsFile.isSome
  | .schema => g.schema.isSome
  | .nameLength => g.nameLength.isSome
  | .dateFormat => g.dateFormat.isSome

def assign (g : Given) (value : String) : Setting → Parsed Given
  | .optionsFile =>
      if value.isEmpty then .error .misuse else .ok { g with optionsFile := some value }
  | .schema => .ok { g with schema := some value }
  | .nameLength =>
      match Text.word64.read? value.toList with
      | some n => .ok { g with nameLength := some n.toNat }
      | none => .error .misuse
  | .dateFormat => .ok { g with dateFormat := some value }

def set (g : Given) (s : Setting) (value : String) : Parsed Given :=
  if g.has s then .error .misuse else g.assign value s

def setVerbose (g : Given) : Parsed Given :=
  if g.verbose then .error .misuse else .ok { g with verbose := true }

-- Arguments win over the environment.
def complete (environment : String → Option String) (g : Given) : List Setting → Parsed Given
  | [] => .ok g
  | s :: rest =>
      match environment s.variableName with
      | some value =>
          if g.has s then complete environment g rest
          else do
            let g ← g.assign value s
            complete environment g rest
      | none => complete environment g rest

end Given

-- A lone dash is a value like any other.
def isFlag (arg : String) : Bool :=
  Text.startsWith "-" arg && arg != "-"

-- Letters behind one dash. A setting that is left open takes the next argument.
def shortFlags (g : Given) : List Char → Parsed (Given × Option Setting)
  | [] => .ok (g, none)
  | 'h' :: _ => .error .help
  | 'V' :: _ => .error .version
  | 'v' :: cs => do
      let g ← g.setVerbose
      shortFlags g cs
  | ['o'] => .ok (g, some .optionsFile)
  | 'o' :: '=' :: value => (g.set .optionsFile (String.ofList value)).map fun g => (g, none)
  | 'o' :: value => (g.set .optionsFile (String.ofList value)).map fun g => (g, none)
  | _ => .error .misuse

def longFlag (g : Given) (cs : List Char) : Parsed (Given × Option Setting) :=
  let name := String.ofList (cs.takeWhile (· != '='))
  match Setting.named? name, cs.dropWhile (· != '=') with
  | some s, '=' :: value => (g.set s (String.ofList value)).map fun g => (g, none)
  | some s, _ => .ok (g, some s)
  | none, _ :: _ => .error .misuse
  | none, [] =>
      if name = "verbose" then g.setVerbose.map fun g => (g, none)
      else if name = "version" then .error .version
      else if name = "help" then .error .help
      else .error .misuse

-- The values behind a command. After two dashes every argument is a value.
def values (literally : Bool) : Nat → List String → Parsed (List String)
  | _, [] => .ok []
  | room, arg :: rest =>
      if !literally && isFlag arg then
        if arg = "--" then values true room rest
        else if arg = "--help" || Text.startsWith "-h" arg then .error .help
        else .error .misuse
      else
        match room with
        | 0 => .error .misuse
        | room + 1 => (values literally room rest).map (arg :: ·)

theorem values_literally (room : Nat) (args : List String) (h : args.length ≤ room) :
    values true room args = .ok args := by
  induction args generalizing room with
  | nil => simp [values]
  | cons arg rest ih =>
    cases room with
    | zero => simp at h
    | succ room => simp [values, ih room (by simpa using h), Except.map]

def fileOf (args : List String) : Parsed String :=
  match values false 1 args with
  | .ok [file] => if file.isEmpty then .error .misuse else .ok file
  | .ok _ => .error .misuse
  | .error stop => .error stop

def command (name : String) (args : List String) : Parsed Command :=
  match name with
  | "format" => (fileOf args).map .format
  | "sql-migrate" => (fileOf args).map .migrationText
  | "type" => (fileOf args).map .typeOf
  | "sequence-name" =>
      match values false 2 args with
      | .ok [entity, column] => .ok (.sequenceName entity column)
      | .ok _ => .error .misuse
      | .error stop => .error stop
  | "help" => .error .help
  | _ => .error .misuse

/-- Flags come before the command. An open setting takes the next argument as its value. -/
def arguments (g : Given) : Option Setting → List String → Parsed (Given × Command)
  | _, [] => .error .misuse
  | some s, arg :: rest =>
      if isFlag arg then .error .misuse
      else do
        let g ← g.set s arg
        arguments g none rest
  | none, arg :: rest =>
      match arg.toList with
      | '-' :: '-' :: cs => do
          let (g, pending) ← longFlag g cs
          arguments g pending rest
      | '-' :: c :: cs => do
          let (g, pending) ← shortFlags g (c :: cs)
          arguments g pending rest
      | _ => (command arg rest).map fun c => (g, c)

def parse (args : List String) (environment : String → Option String) :
    Parsed (Given × Command) := do
  let (g, c) ← arguments Given.nothing none args
  let g ← g.complete environment Setting.all
  pure (g, c)

end OracleSql.CommandLine
