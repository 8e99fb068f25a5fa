import OracleSql.Json.Record
import OracleSql.Query.Error

set_option autoImplicit false

namespace OracleSql

def containsText (part : List Char) : List Char → Bool
  | [] => part.isEmpty
  | c :: cs => part.isPrefixOf (c :: cs) || containsText part cs

structure EngineError where
  message : String
  deriving DecidableEq

def EngineError.notFoundCodes : List String :=
  ["ORA-00942", "ORA-04043"]

def EngineError.isNotFound (e : EngineError) : Bool :=
  notFoundCodes.any fun code => containsText code.toList e.message.toList

inductive RequestFault where
  | noTarget
  | removesColumns
  | changesColumns
  | noColumns
  | indexWithoutColumns (name : String)
  deriving DecidableEq

def RequestFault.message : RequestFault → String
  | .noTarget => "migration target cannot be empty"
  | .removesColumns => "removing columns is not supported"
  | .changesColumns => "changes are derived from the add collection; change must be empty"
  | .noColumns => "fields collection cannot be empty"
  | .indexWithoutColumns name => "index " ++ name ++ " needs at least one column"

inductive StateFault where
  | noCount
  | columnWithoutName
  | sequenceWithoutValue (name : String)
  | entryWithoutId
  | other (message : String)
  deriving DecidableEq

def StateFault.message : StateFault → String
  | .noCount => "expected a count row"
  | .columnWithoutName => "column row without name"
  | .sequenceWithoutValue name => "sequence " ++ name ++ " returned no value"
  | .entryWithoutId => "ledger row without id"
  | .other message => message

inductive Failure where
  | request (fault : RequestFault)
  | record (fault : RecordFault)
  | query (e : QueryError)
  | engine (e : EngineError)
  | state (fault : StateFault)
  deriving DecidableEq

def Failure.message : Failure → String
  | .request fault => "Invalid argument: " ++ fault.message
  | .record fault => "Serialization error: " ++ fault.message
  | .query e => "Compile error: " ++ e.message
  | .engine e => "Engine error: " ++ e.message
  | .state fault => "Invalid migration state: " ++ fault.message

end OracleSql
