import OracleSql.Session.Run

set_option autoImplicit false

namespace OracleSql

structure Script where
  replies : List (Except EngineError (List Row))
  fault : Hook → Option EngineError

namespace Script

def empty : Script :=
  ⟨[], fun _ => none⟩

def execute (s : Script) : Except EngineError (List Row) × Script :=
  match s.replies with
  | reply :: rest => (reply, { s with replies := rest })
  | [] => (.ok [], s)

def hook (s : Script) (h : Hook) : Except EngineError Unit × Script :=
  match s.fault h with
  | some e => (.error e, s)
  | none => (.ok (), s)

def engine : Engine Script where
  execute _ _ s := s.execute
  hook h s := s.hook h

end Script

end OracleSql
