import OracleSql.Name
import OracleSql.Value

set_option autoImplicit false

namespace OracleSql

structure Entity where
  name : String
  alias? : Option String
  deriving DecidableEq

def Entity.source (e : Entity) : String :=
  e.alias?.getD e.name

inductive Direction where
  | ascending
  | descending
  deriving DecidableEq

def Direction.keyword : Direction → String
  | .ascending => "ASC"
  | .descending => "DESC"

inductive JoinKind where
  | inner
  | left
  | right
  deriving DecidableEq

def JoinKind.keyword : JoinKind → String
  | .inner => "INNER JOIN"
  | .left => "LEFT JOIN"
  | .right => "RIGHT JOIN"

inductive Comparison where
  | eq
  | ne
  | gt
  | gte
  | lt
  | lte
  deriving DecidableEq

def Comparison.symbol : Comparison → String
  | .eq => "="
  | .ne => "<>"
  | .gt => ">"
  | .gte => ">="
  | .lt => "<"
  | .lte => "<="

inductive Clock where
  | date
  | dateTime
  | timestamp
  deriving DecidableEq

inductive DatePart where
  | day
  | month
  | year
  | hour
  | minute
  | second
  deriving DecidableEq

inductive UnaryFunction where
  | length | toText | toLower | toUpper | trim | date
  | ceiling | floor | toInt | toDouble | toLong
  | jsonEach | toGuid
  | count | min | max | sum | avg
  deriving DecidableEq

inductive BinaryFunction where
  | indexOf | text
  | bitAnd | add | subtract | multiply | divide | modulo
  | ifNull
  deriving DecidableEq

inductive Matcher where
  | startsWith
  | contains
  | endsWith
  | regex
  deriving DecidableEq

mutual

inductive Expr where
  | column (c : ColumnRef)
  | value (v : Value)
  | call (f : Call)
  | select (q : Query)

inductive Call where
  | unary (f : UnaryFunction) (e : Expr)
  | binary (f : BinaryFunction) (a b : Expr)
  | matching (f : Matcher) (source pattern : Expr)
  | extract (part : DatePart) (e : Expr)
  | now (clock : Clock)
  -- Positions count from zero.
  | substring (source : Expr) (start : Int) (length? : Option Int)
  | concat (items : List Expr)
  | round (e : Expr) (digits : Option Expr)
  | toDecimal (e : Expr) (precision scale : Option Nat)
  | jsonGet (path : String)
  | jsonObject (members : List Field)
  | jsonArray (e : Expr)
  | jsonGroupArray (e : Expr)
  | cond (condition : Predicate) (yes no : Expr)
  | uuid
  | rowIndex (order : List OrderTerm)

structure Field where
  expr : Expr
  alias? : Option String

structure OrderTerm where
  expr : Expr
  direction : Direction

inductive Predicate where
  | and (items : List Predicate)
  | or (items : List Predicate)
  | not (item : Predicate)
  | nor (items : List Predicate)
  | compare (left : Expr) (op : Comparison) (right : Expr)
  | oneOf (negated : Bool) (e : Expr) (items : List Expr)
  | between (e low high : Expr)
  | holds (e : Expr)

structure Join where
  kind : JoinKind
  entity : Entity
  condition : Predicate

/-- No fields means all columns; a fixed query has no entity. -/
structure Query where
  entity : Option Entity
  fields : List Field
  fixed : Bool
  distinct : Bool
  filter : Option Predicate
  joins : List Join
  order : List OrderTerm
  group : List Expr
  skip : Option Nat
  take : Option Nat

end

abbrev Assignments := List (String × Expr)

inductive Statement where
  | select (query : Query)
  | insert (entity : String) (values : Assignments)
  | update (entity : String) (values : Assignments) (filter : Option Predicate)
  | delete (entity : String) (filter : Option Predicate)

def Statement.fields : Statement → List Field
  | .select query => query.fields
  | _ => []

def Expr.named (name : String) : Expr :=
  .column (ColumnRef.parse name)

def Expr.isJsonGet : Expr → Bool
  | .call (.jsonGet _) => true
  | _ => false

def Field.outputName (f : Field) : Option String :=
  match f.alias?, f.expr with
  | some name, _ => some name
  | none, .column c => some c.column
  | none, _ => none

namespace Predicate

def conjoin (p q : Predicate) : Predicate :=
  match p with
  | .and items => .and (items ++ [q])
  | p => .and [p, q]

def disjoin (p q : Predicate) : Predicate :=
  match p with
  | .or items => .or (items ++ [q])
  | p => .or [p, q]

end Predicate

namespace Query

def empty : Query :=
  ⟨none, [], false, false, none, [], [], [], none, none⟩

def ofEntity (name : String) : Query :=
  { empty with entity := some ⟨name, none⟩ }

def constant : Query :=
  { empty with fixed := true }

-- Only a query with an entity takes an alias.
def withAlias (q : Query) (name : String) : Query :=
  { q with entity := q.entity.map fun e => { e with alias? := some name } }

def selecting (q : Query) (fields : List Field) : Query :=
  { q with fields := q.fields ++ fields }

def filtered (q : Query) (p : Predicate) : Query :=
  { q with
    filter := some (match q.filter with
      | some present => present.conjoin p
      | none => p) }

def joining (q : Query) (joins : List Join) : Query :=
  { q with joins := q.joins ++ joins }

def ordered (q : Query) (order : List OrderTerm) : Query :=
  { q with order := q.order ++ order }

def grouped (q : Query) (e : Expr) : Query :=
  { q with group := q.group ++ [e] }

def isPaged (q : Query) : Bool :=
  match q.take with
  | some take => decide (0 < take)
  | none => false

end Query

end OracleSql
