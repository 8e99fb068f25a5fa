import OracleSql.Query.Basic

set_option autoImplicit false

namespace OracleSql

/-- How the arguments of a function node are read. -/
inductive FunctionForm where
  | unary (f : UnaryFunction)
  | binary (f : BinaryFunction)
  | matching (f : Matcher)
  | extract (part : DatePart)
  | now
  | clock
  | substring
  | concat
  | round
  | toDecimal
  | jsonGet
  | jsonObject
  | jsonArray
  | jsonGroupArray
  | cond
  | uuid
  | rowIndex
  deriving DecidableEq

def FunctionForm.names : List (String × FunctionForm) :=
  [ ("indexOf", .binary .indexOf), ("indexof", .binary .indexOf),
    ("substring", .substring), ("substr", .substring),
    ("length", .unary .length),
    ("startsWith", .matching .startsWith), ("startswith", .matching .startsWith),
    ("contains", .matching .contains),
    ("endsWith", .matching .endsWith), ("endswith", .matching .endsWith),
    ("regex", .matching .regex),
    ("text", .binary .text),
    ("concat", .concat),
    ("toString", .unary .toText), ("tostring", .unary .toText),
    ("toLower", .unary .toLower), ("tolower", .unary .toLower),
    ("toUpper", .unary .toUpper), ("toupper", .unary .toUpper),
    ("trim", .unary .trim),
    ("day", .extract .day), ("month", .extract .month), ("year", .extract .year),
    ("hour", .extract .hour),
    ("minute", .extract .minute), ("minutes", .extract .minute),
    ("second", .extract .second), ("seconds", .extract .second),
    ("date", .unary .date),
    ("now", .now), ("getDate", .clock), ("getdate", .clock),
    ("ceiling", .unary .ceiling), ("ceil", .unary .ceiling),
    ("floor", .unary .floor),
    ("round", .round),
    ("toInt", .unary .toInt), ("toDouble", .unary .toDouble), ("toLong", .unary .toLong),
    ("toDecimal", .toDecimal),
    ("bitAnd", .binary .bitAnd), ("bit", .binary .bitAnd),
    ("add", .binary .add), ("subtract", .binary .subtract),
    ("multiply", .binary .multiply), ("divide", .binary .divide),
    ("modulo", .binary .modulo), ("mod", .binary .modulo),
    ("jsonGet", .jsonGet), ("jsonObject", .jsonObject), ("jsonArray", .jsonArray),
    ("jsonGroupArray", .jsonGroupArray), ("jsonEach", .unary .jsonEach),
    ("ifNull", .binary .ifNull), ("ifnull", .binary .ifNull),
    ("cond", .cond),
    ("uuid", .uuid), ("newGuid", .uuid), ("toGuid", .unary .toGuid),
    ("count", .unary .count), ("min", .unary .min), ("max", .unary .max),
    ("sum", .unary .sum), ("avg", .unary .avg),
    ("rowIndex", .rowIndex) ]

def FunctionForm.ofName? (name : String) : Option FunctionForm :=
  (names.find? fun e => e.1 == name).map Prod.snd

def Comparison.ofName? (name : String) : Option Comparison :=
  match name with
  | "$eq" => some .eq
  | "$ne" => some .ne
  | "$gt" => some .gt
  | "$gte" => some .gte
  | "$lt" => some .lt
  | "$lte" => some .lte
  | _ => none

inductive Operator where
  | compare (op : Comparison)
  | oneOf (negated : Bool)
  | between
  deriving DecidableEq

def Operator.ofName? (name : String) : Option Operator :=
  match Comparison.ofName? name with
  | some op => some (.compare op)
  | none =>
      match name with
      | "$in" => some (.oneOf false)
      | "$nin" => some (.oneOf true)
      | "$between" => some .between
      | _ => none

def JoinKind.ofName? (name : String) : Option JoinKind :=
  match name with
  | "inner" => some .inner
  | "left" => some .left
  | "right" => some .right
  | _ => none

def Clock.ofName? (name : String) : Option Clock :=
  match name with
  | "date" => some .date
  | "datetime" => some .dateTime
  | "timestamp" => some .timestamp
  | _ => none

end OracleSql
