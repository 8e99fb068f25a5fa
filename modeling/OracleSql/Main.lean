import OracleSql.CommandLine.Run

set_option autoImplicit false

namespace OracleSql.CommandLine

def readFile? (file : String) : IO (Option String) :=
  try
    let text ← IO.FS.readFile file
    pure (some text)
  catch _ => pure none

def readFiles (files : List String) : IO (List (String × String)) :=
  files.filterMapM fun file => do
    let text ← readFile? file
    pure (text.map fun text => (file, text))

def readEnvironment : IO (List (String × String)) :=
  (Setting.all.map Setting.variableName).filterMapM fun name => do
    let value ← IO.getEnv name
    pure (value.map fun value => (name, value))

def lookup (entries : List (String × String)) (name : String) : Option String :=
  (entries.find? fun e => e.1 == name).map Prod.snd

def act (args : List String) : IO Output := do
  let environment ← readEnvironment
  match parse args (lookup environment) with
  | .error stop => pure (stopOutput stop)
  | .ok (g, c) =>
      let texts ← readFiles (filesOf g c)
      -- No document holds an instant, so that any offset will do.
      pure (run 0 (lookup texts) g c)

end OracleSql.CommandLine

def main (args : List String) : IO UInt32 := do
  let output ← OracleSql.CommandLine.act args
  IO.print output.out
  IO.eprint output.err
  pure (UInt32.ofNat output.code)
