set_option autoImplicit false

namespace OracleSql

inductive DocumentFault where
  | notObject (part : String)
  | notSingleKey (part : String)
  | deleteTarget
  | fieldShape
  | expandEntity
  | entityName
  | joinKind (name : String)
  | entityShape
  | expandCondition
  | orderShape
  | nameShape
  | jsonReference
  | jsonPath
  | operator (name : String)
  deriving DecidableEq

def DocumentFault.message : DocumentFault → String
  | .notObject part => part ++ " must be an object"
  | .notSingleKey part => part ++ " must have exactly one key"
  | .deleteTarget => "$delete must name an entity"
  | .fieldShape => "a field must be a name or an object"
  | .expandEntity => "an $expand item needs $entity"
  | .entityName => "$entity needs a name"
  | .joinKind name => "unknown join type '" ++ name ++ "'"
  | .entityShape => "$entity must be a name or an object"
  | .expandCondition => "an $expand item needs $with"
  | .orderShape => "an $order item must be a name or an object"
  | .nameShape => "$name must be a string"
  | .jsonReference => "jsonGet expects a $name reference"
  | .jsonPath => "jsonGet expects a path"
  | .operator name => "unknown operator '" ++ name ++ "'"

inductive QueryError where
  | document (fault : DocumentFault)
  | unknownFunction (name : String)
  | missingEntity
  | insertWithoutValues (entity : String)
  | updateWithoutValues (entity : String)
  | fixedWithoutFields
  | unnamedPageField
  | emptyCondition
  | jsonPathTooShort (path : String)
  | jsonPathWithoutProperty (path : String)
  | unnamedMember
  | groupArrayShape
  | arrayShape
  | missingArgument (function : String) (position : Nat)
  | notInteger (function : String)
  | precisionRange (function : String)
  | clockName (name : String)
  | pageRange (skip take : Nat)
  | substringRange (start : Int)
  | concatTooShort
  deriving DecidableEq

inductive QueryErrorKind where
  | invalidExpression
  | unsupportedShape (function : String)
  | unknownFunction
  | missingEntity
  | invalidArgument
  | document
  deriving DecidableEq

namespace QueryError

def kind : QueryError → QueryErrorKind
  | .document _ => .document
  | .unknownFunction _ => .unknownFunction
  | .missingEntity => .missingEntity
  | .insertWithoutValues _ | .updateWithoutValues _ | .fixedWithoutFields | .unnamedPageField
  | .emptyCondition | .jsonPathTooShort _ | .jsonPathWithoutProperty _ => .invalidExpression
  | .unnamedMember => .unsupportedShape "jsonObject"
  | .groupArrayShape => .unsupportedShape "jsonGroupArray"
  | .arrayShape => .unsupportedShape "jsonArray"
  | .missingArgument _ _ | .notInteger _ | .precisionRange _ | .clockName _ | .pageRange _ _
  | .substringRange _ | .concatTooShort => .invalidArgument

def detail : QueryError → String
  | .document fault => fault.message
  | .unknownFunction name => "'" ++ name ++ "'"
  | .missingEntity => ""
  | .insertWithoutValues entity => "insert into " ++ entity ++ " has no values"
  | .updateWithoutValues entity => "update of " ++ entity ++ " has no values"
  | .fixedWithoutFields => "a fixed select needs at least one field"
  | .unnamedPageField => "fields of a paged select need an alias"
  | .emptyCondition => "a logical expression needs at least one condition"
  | .jsonPathTooShort path => "jsonGet expects table.column.path, got '" ++ path ++ "'"
  | .jsonPathWithoutProperty path => "jsonGet path '" ++ path ++ "' names no property"
  | .unnamedMember => "every member needs a name"
  | .groupArrayShape => "expected a jsonObject expression"
  | .arrayShape => "expected a field, a select or a literal value"
  | .missingArgument function position => function ++ " expects argument " ++ toString position
  | .notInteger function => function ++ " expects an integer"
  | .precisionRange function => function ++ " precision out of range"
  | .clockName name => "getDate expects date, datetime or timestamp, got '" ++ name ++ "'"
  | .pageRange skip take => "page " ++ toString skip ++ "+" ++ toString take ++ " is out of range"
  | .substringRange start => "substring start " ++ toString start ++ " is out of range"
  | .concatTooShort => "concat expects at least two arguments"

def message (e : QueryError) : String :=
  match e.kind with
  | .invalidExpression => "invalid expression: " ++ e.detail
  | .unsupportedShape function => "unsupported argument for " ++ function ++ ": " ++ e.detail
  | .unknownFunction => "unknown dialect function " ++ e.detail
  | .missingEntity => "entity is missing"
  | .invalidArgument => "invalid argument: " ++ e.detail
  | .document => "invalid query document: " ++ e.detail

end QueryError

abbrev Checked (α : Type) := Except QueryError α

end OracleSql
