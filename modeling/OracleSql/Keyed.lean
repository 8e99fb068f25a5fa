set_option autoImplicit false

namespace OracleSql

/-- Entries in increasing order of their keys. -/
abbrev Keyed (α : Type) := List (String × α)

namespace Keyed

variable {α : Type}

-- A key that is present keeps its place and gets the new value.
def insert (entries : Keyed α) (key : String) (value : α) : Keyed α :=
  match entries with
  | [] => [(key, value)]
  | (k, v) :: rest =>
      if key < k then (key, value) :: (k, v) :: rest
      else if key = k then (key, value) :: rest
      else (k, v) :: insert rest key value

def get? (entries : Keyed α) (key : String) : Option α :=
  (entries.find? fun e => e.1 == key).map Prod.snd

def ofList (entries : List (String × α)) : Keyed α :=
  entries.foldl (fun sorted e => sorted.insert e.1 e.2) []

end Keyed

end OracleSql
