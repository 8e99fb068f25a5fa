import OracleSql.Literal
import OracleSql.Query.Basic

set_option autoImplicit false

namespace OracleSql

def uuidLayout : String :=
  "'(.{8})(.{4})(.{4})(.{4})(.{12})', '\\1-\\2-\\3-\\4-\\5'"

def uuidText : String :=
  "REGEXP_REPLACE(SYS_GUID(), " ++ uuidLayout ++ ")"

def Clock.text : Clock → String
  | .date => "TRUNC(SYSDATE)"
  | .dateTime => "SYSDATE"
  | .timestamp => "CAST(SYSDATE AS TIMESTAMP WITH LOCAL TIME ZONE)"

def DatePart.keyword : DatePart → String
  | .day => "DAY"
  | .month => "MONTH"
  | .year => "YEAR"
  | .hour => "HOUR"
  | .minute => "MINUTE"
  | .second => "SECOND"

def UnaryFunction.around : UnaryFunction → String × String
  | .length => ("LENGTH(", ")")
  | .toText => ("TO_NCHAR(", ")")
  | .toLower => ("LOWER(", ")")
  | .toUpper => ("UPPER(", ")")
  | .trim => ("TRIM(", ")")
  | .date => ("TO_CHAR(TRUNC(", "), 'YYYY-MM-DD')")
  | .ceiling => ("CEIL(", ")")
  | .floor => ("FLOOR(", ")")
  | .toInt => ("FLOOR(CAST(", " as DECIMAL(19,8)))")
  | .toDouble => ("CAST(", " AS DECIMAL(19,8))")
  | .toLong => ("CAST(", " AS NUMBER(19))")
  | .jsonEach => ("JSON_TABLE(", ", '$[*]' COLUMNS (\"value\" NVARCHAR2(2000) PATH '$'))")
  | .toGuid => ("REGEXP_REPLACE(STANDARD_HASH(TO_CHAR(", "),'MD5'), " ++ uuidLayout ++ ")")
  | .count => ("COUNT(", ")")
  | .min => ("MIN(", ")")
  | .max => ("MAX(", ")")
  | .sum => ("SUM(", ")")
  | .avg => ("AVG(", ")")

def UnaryFunction.apply (f : UnaryFunction) (e : String) : String :=
  f.around.1 ++ e ++ f.around.2

def BinaryFunction.around : BinaryFunction → String × String × String
  | .indexOf => ("(INSTR(", ",", ")-1)")
  | .text => ("(INSTR(", ",", ")-1)>=0")
  | .bitAnd => ("BITAND(", ", ", ")")
  | .add => ("(", " + ", ")")
  | .subtract => ("(", " - ", ")")
  | .multiply => ("(", " * ", ")")
  | .divide => ("(", " / ", ")")
  | .modulo => ("MOD(", ", ", ")")
  | .ifNull => ("NVL(", ", ", ")")

def BinaryFunction.apply (f : BinaryFunction) (a b : String) : String :=
  f.around.1 ++ a ++ f.around.2.1 ++ b ++ f.around.2.2

-- Matching ignores case, except by a regular expression that is given.
def Matcher.around : Matcher → String × String × String
  | .startsWith | .endsWith => ("REGEXP_COUNT(", ",", ", 1, 'i')")
  | .contains => ("(CASE WHEN REGEXP_COUNT(", ",", ", 1, 'i') > 0 THEN 1 ELSE 0 END)")
  | .regex => ("REGEXP_LIKE(", ",", ")")

def Matcher.apply (f : Matcher) (source pattern : String) : String :=
  f.around.1 ++ source ++ f.around.2.1 ++ pattern ++ f.around.2.2

def Matcher.anchors : Matcher → String × String
  | .startsWith => ("^", "")
  | .endsWith => ("", "$")
  | .contains | .regex => ("", "")

/-- A literal pattern takes its anchors inside the quotes. -/
def Matcher.literal (f : Matcher) (offset : Int) (v : Value) : String :=
  "'" ++ f.anchors.1 ++ Literal.ofValue offset true v ++ f.anchors.2 ++ "'"

def quotedAnchor (anchor : String) : List String :=
  if anchor = "" then [] else ["'" ++ anchor ++ "'"]

def Matcher.computed (f : Matcher) (pattern : String) : String :=
  " || ".intercalate (quotedAnchor f.anchors.1 ++ [pattern] ++ quotedAnchor f.anchors.2)

end OracleSql
