import OracleSql.Query.DateFormat
import OracleSql.Query.Error
import OracleSql.Query.Template
import OracleSql.Text.Split

set_option autoImplicit false

namespace OracleSql

structure Settings where
  dateFormat : String
  -- Columns with a table get their own name as alias.
  forceAlias : Bool
  aliasKeyword : Bool
  -- The seconds by which local time is ahead of universal time.
  offset : Int

def Settings.default (offset : Int) : Settings :=
  ⟨defaultDateFormat, true, false, offset⟩

def rowIndexColumn : String := "__RowIndex"

def commaList (items : List String) : String :=
  ", ".intercalate items

def ColumnRef.render (c : ColumnRef) : String :=
  let column := if c.column = "*" then "*" else Name.quote c.column
  match c.table with
  | some table => Name.quote table ++ "." ++ column
  | none => column

def Entity.render (e : Entity) : String :=
  match e.alias? with
  | some name => Name.quoteWords e.name ++ " " ++ Name.quote name
  | none => Name.quoteWords e.name

def Settings.printedAlias (s : Settings) (e : Expr) (alias? : Option String) : Option String :=
  match alias?, e with
  | some name, _ => some name
  | none, .column c =>
      if s.forceAlias ∧ c.table.isSome ∧ c.column ≠ "*" then some c.column else none
  | none, _ => none

def Settings.withAlias (s : Settings) (sql : String) : Option String → String
  | some name => sql ++ (if s.aliasKeyword then " AS " else " ") ++ Name.quote name
  | none => sql

-- Text that starts and ends with a parenthesis already is taken as it is.
def parenthesize (sql : String) : String :=
  if sql.toList.head? = some '(' ∧ sql.toList.getLast? = some ')' then sql else "(" ++ sql ++ ")"

-- One condition needs no parentheses.
def joinConditions (separator : String) : List String → Checked String
  | [] => .error .emptyCondition
  | [item] => .ok item
  | items => .ok ("(" ++ separator.intercalate items ++ ")")

/-- A comparison with a null literal on the right is a null test. -/
def comparisonText (left : String) (op : Comparison) (right : Expr) (rightText : Checked String) :
    Checked String :=
  match op, right with
  | .eq, .value .null => .ok ("(" ++ left ++ " IS NULL)")
  | .ne, .value .null => .ok ("(" ++ left ++ " IS NOT NULL)")
  | op, _ => rightText.map fun right => "(" ++ left ++ op.symbol ++ right ++ ")"

def membershipText (negated : Bool) (left list : String) : String :=
  if negated then "(NOT " ++ left ++ " IN " ++ list ++ ")" else "(" ++ left ++ " IN " ++ list ++ ")"

def emptyMembership (negated : Bool) : String :=
  if negated then "(1=1)" else "(1=0)"

-- Text that is stored in a document is read by the format of the settings first.
def extractText (s : Settings) (part : DatePart) (fromDocument : Bool) (source : String) : String :=
  if fromDocument then
    "EXTRACT(" ++ part.keyword ++ " FROM TO_TIMESTAMP_TZ(" ++ source ++ ", '" ++ s.dateFormat ++
      "'))"
  else "EXTRACT(" ++ part.keyword ++ " FROM " ++ source ++ ")"

def substringText (source : String) (start : Int) (length? : Option Int) : Checked String :=
  if Text.int64.holds (start + 1) then
    .ok <| match length? with
      | some length =>
          "SUBSTR(" ++ source ++ "," ++ toString (start + 1) ++ "," ++ toString length ++ ")"
      | none => "SUBSTR(" ++ source ++ "," ++ toString (start + 1) ++ ")"
  else .error (.substringRange start)

def concatText (items : List String) : String :=
  "(" ++ " || ".intercalate (items.map fun e => "COALESCE(TO_CHAR(" ++ e ++ "),'')") ++ ")"

def decimalText (e : String) (precision scale : Option Nat) : String :=
  "CAST(" ++ e ++ " AS DECIMAL(" ++ toString (precision.getD 19) ++ "," ++
    toString (scale.getD 8) ++ "))"

def jsonGetText (path : String) : Checked String :=
  match Text.splitText '.' path with
  | table :: column :: property :: rest =>
      .ok ("JSON_VALUE(" ++ Name.quote table ++ "." ++ Name.quote column ++ ", '$." ++
        ".".intercalate (property :: rest) ++ "')")
  | [_, _] => .error (.jsonPathWithoutProperty path)
  | _ => .error (.jsonPathTooShort path)

def memberText (name? : Option String) (value : Checked String) : Checked String :=
  match name? with
  | some name => value.map fun e => Literal.escapeText name ++ ":" ++ e
  | none => .error .unnamedMember

def objectText (members : List String) : String :=
  "json_object(" ++ ",".intercalate members ++ ")"

def arrayOfObjectsText (members : List String) : String :=
  "JSON_ARRAYAGG(" ++ objectText members ++ ")"

-- A document array is a document literal, even when it holds objects.
def arrayLiteral (offset : Int) : Value → String
  | .array items => Literal.escapeText (Value.array items).toText
  | v => Literal.escape offset v

def rowNumberText (order : List String) : String :=
  "ROW_NUMBER() OVER(ORDER BY " ++ (if order.isEmpty then "NULL" else commaList order) ++ ")"

structure Projection where
  names : List (Option String)
  items : Checked (List String)

structure Clauses where
  joins : Checked (List String)
  filter : Checked (Option String)
  group : Checked (List String)
  order : Checked (List String)

structure QueryHead where
  entity : Option Entity
  fixed : Bool
  distinct : Bool
  skip : Option Nat
  take : Option Nat

def whereText : Option String → String
  | some condition => " WHERE " ++ condition
  | none => ""

def clauseText (keyword : String) (items : List String) : String :=
  if items.isEmpty then "" else keyword ++ commaList items

def plainText (distinct : Bool) (entity : Entity) (items : Checked (List String)) (c : Clauses) :
    Checked String := do
  let items ← items
  let joins ← c.joins
  let filter ← c.filter
  let group ← c.group
  let order ← c.order
  pure ("SELECT " ++ (if distinct then "DISTINCT " else "") ++ commaList items ++ " FROM " ++
    entity.render ++ String.join (joins.map (" " ++ ·)) ++ whereText filter ++
    clauseText " GROUP BY " group ++ clauseText " ORDER BY " order)

def pageName : Option String → Checked String
  | some name => .ok (if name = "*" then "*" else Name.quote name)
  | none => .error .unnamedPageField

def pageRange (skip take : Nat) : Checked (Nat × Nat) :=
  if Text.word64.holds (skip + 1) ∧ Text.word64.holds (skip + take) then .ok (skip + 1, skip + take)
  else .error (.pageRange skip take)

/-- The rows are numbered in a nested query, and the outer one keeps those of the page. -/
def pagedText (s : Settings) (head : QueryHead) (p : Projection) (c : Clauses) :
    Checked String := do
  let (first, last) ← pageRange (head.skip.getD 0) (head.take.getD 0)
  let some entity := head.entity | throw .missingEntity
  let outer ← if p.names.isEmpty then pure ["*"] else p.names.mapM pageName
  let items := do
    let items ←
      if p.names.isEmpty then pure [(ColumnRef.parse (entity.source ++ ".*")).render] else p.items
    let order ← c.order
    pure (items ++ [s.withAlias (rowNumberText order) (some rowIndexColumn)])
  let inner ← plainText head.distinct entity items { c with order := .ok [] }
  let index := Name.quote rowIndexColumn
  pure ("SELECT " ++ commaList outer ++ " FROM (" ++ inner ++ ") t0 WHERE " ++ index ++
    " BETWEEN " ++ toString first ++ " AND " ++ toString last ++ " ORDER BY " ++ index)

def fixedText (p : Projection) : Checked String :=
  if p.names.isEmpty then .error .fixedWithoutFields
  else p.items.map fun items => "SELECT " ++ commaList items ++ " FROM DUAL"

def selectText (s : Settings) (head : QueryHead) (p : Projection) (c : Clauses) : Checked String :=
  if head.fixed then fixedText p
  else if 0 < head.take.getD 0 then pagedText s head p c
  else
    match head.entity with
    | none => .error .missingEntity
    | some entity =>
        let items :=
          if p.names.isEmpty then .ok [Name.quoteWords (entity.source ++ ".*")] else p.items
        plainText head.distinct entity items c

mutual

def Expr.render (s : Settings) : Expr → Checked String
  | .column c => .ok c.render
  | .value v => .ok (Literal.escape s.offset v)
  | .call f => f.render s
  | .select q => (q.render s).map fun sql => "(" ++ sql ++ ")"

def Call.render (s : Settings) : Call → Checked String
  | .unary f e => (e.render s).map f.apply
  | .binary f a b => do
      let a ← a.render s
      let b ← b.render s
      pure (f.apply a b)
  | .matching f source pattern => do
      let source ← source.render s
      let pattern ← pattern.renderPattern s f
      pure (f.apply source pattern)
  | .extract part e => (e.render s).map (extractText s part e.isJsonGet)
  | .now clock => .ok clock.text
  | .substring source start length? => do
      let source ← source.render s
      substringText source start length?
  | .concat items =>
      if items.length < 2 then .error .concatTooShort
      else (Expr.renderAll s items).map concatText
  | .round e digits => do
      let digits ← Expr.renderOption s digits
      let e ← e.render s
      pure ("ROUND(" ++ e ++ "," ++ digits.getD "0" ++ ")")
  | .toDecimal e precision scale => (e.render s).map fun e => decimalText e precision scale
  | .jsonGet path => jsonGetText path
  | .jsonObject members => (Field.renderMembers s members).map objectText
  | .jsonArray e => e.renderArray s
  | .jsonGroupArray (.call (.jsonObject members)) =>
      (Field.renderMembers s members).map arrayOfObjectsText
  | .jsonGroupArray _ => .error .groupArrayShape
  | .cond condition yes no => do
      let condition ← condition.render s
      let yes ← yes.render s
      let no ← no.render s
      pure ("(CASE WHEN " ++ condition ++ " THEN " ++ yes ++ " ELSE " ++ no ++ " END)")
  | .uuid => .ok uuidText
  | .rowIndex order => (OrderTerm.renderAll s order).map rowNumberText

def Expr.renderPattern (s : Settings) (f : Matcher) : Expr → Checked String
  | .value v => .ok (f.literal s.offset v)
  | .column c => .ok (f.computed c.render)
  | .call g => (g.render s).map f.computed
  | .select q => (q.render s).map fun sql => f.computed ("(" ++ sql ++ ")")

def Expr.renderArray (s : Settings) : Expr → Checked String
  | .column c => .ok c.render
  | .value v => .ok (arrayLiteral s.offset v)
  | .call _ => .error .arrayShape
  | .select ⟨entity, fields, fixed, distinct, filter, joins, order, group, skip, take⟩ =>
      (selectText s ⟨entity, fixed, distinct, skip, take⟩
        ⟨[none], (Field.renderMembers s fields).map fun members => [arrayOfObjectsText members]⟩
        ⟨Join.renderAll s joins, Predicate.renderOption s filter, Expr.renderAll s group,
          OrderTerm.renderAll s order⟩).map fun sql => "(" ++ sql ++ ")"

def Expr.renderOption (s : Settings) : Option Expr → Checked (Option String)
  | none => .ok none
  | some e => (e.render s).map some

def Expr.renderAll (s : Settings) : List Expr → Checked (List String)
  | [] => .ok []
  | e :: rest => do
      let e ← e.render s
      let rest ← Expr.renderAll s rest
      pure (e :: rest)

def Field.renderMembers (s : Settings) : List Field → Checked (List String)
  | [] => .ok []
  | ⟨e, alias?⟩ :: rest => do
      let member ← memberText (Field.outputName ⟨e, alias?⟩) (e.render s)
      let rest ← Field.renderMembers s rest
      pure (member :: rest)

def Field.render (s : Settings) : Field → Checked String
  | ⟨e, alias?⟩ => (e.render s).map fun sql => s.withAlias sql (s.printedAlias e alias?)

def Field.renderAll (s : Settings) : List Field → Checked (List String)
  | [] => .ok []
  | f :: rest => do
      let f ← f.render s
      let rest ← Field.renderAll s rest
      pure (f :: rest)

def OrderTerm.renderAll (s : Settings) : List OrderTerm → Checked (List String)
  | [] => .ok []
  | ⟨e, direction⟩ :: rest => do
      let e ← e.render s
      let rest ← OrderTerm.renderAll s rest
      pure ((e ++ " " ++ direction.keyword) :: rest)

def Predicate.render (s : Settings) : Predicate → Checked String
  | .and items => do
      let items ← Predicate.renderAll s items
      joinConditions " AND " items
  | .or items => do
      let items ← Predicate.renderAll s items
      joinConditions " OR " items
  | .not item => (item.render s).map fun sql => "NOT " ++ parenthesize sql
  | .nor items => do
      let items ← Predicate.renderAll s items
      let sql ← joinConditions " OR " items
      pure ("NOT " ++ parenthesize sql)
  | .compare left op right => do
      let leftText ← left.render s
      comparisonText leftText op right (right.render s)
  | .oneOf negated e items => do
      let e ← e.render s
      match items with
      | [] => pure (emptyMembership negated)
      | [.select q] => (q.render s).map fun sql => membershipText negated e ("(" ++ sql ++ ")")
      | items =>
          (Expr.renderAll s items).map fun items =>
            membershipText negated e ("(" ++ commaList items ++ ")")
  | .between e low high => do
      let e ← e.render s
      let low ← low.render s
      let high ← high.render s
      pure ("(" ++ e ++ " BETWEEN " ++ low ++ " AND " ++ high ++ ")")
  | .holds e => e.render s

def Predicate.renderAll (s : Settings) : List Predicate → Checked (List String)
  | [] => .ok []
  | p :: rest => do
      let p ← p.render s
      let rest ← Predicate.renderAll s rest
      pure (p :: rest)

def Predicate.renderOption (s : Settings) : Option Predicate → Checked (Option String)
  | none => .ok none
  | some p => (p.render s).map some

def Join.renderAll (s : Settings) : List Join → Checked (List String)
  | [] => .ok []
  | ⟨kind, entity, condition⟩ :: rest => do
      let condition ← condition.render s
      let rest ← Join.renderAll s rest
      pure ((kind.keyword ++ " " ++ entity.render ++ " ON " ++ condition) :: rest)

def Query.render (s : Settings) : Query → Checked String
  | ⟨entity, fields, fixed, distinct, filter, joins, order, group, skip, take⟩ =>
      selectText s ⟨entity, fixed, distinct, skip, take⟩
        ⟨fields.map Field.outputName, Field.renderAll s fields⟩
        ⟨Join.renderAll s joins, Predicate.renderOption s filter, Expr.renderAll s group,
          OrderTerm.renderAll s order⟩

end

def OrderTerm.renderList (s : Settings) (order : List OrderTerm) : Checked String :=
  (OrderTerm.renderAll s order).map commaList

def assignmentText (value : String × String) : String :=
  Name.quote value.1 ++ "=" ++ value.2

def Assignments.render (s : Settings) (values : Assignments) : Checked (List (String × String)) :=
  values.mapM fun (column, e) => (e.render s).map (column, ·)

def Statement.render (s : Settings) : Statement → Checked String
  | .select query => query.render s
  | .insert entity values => do
      if values.isEmpty then throw (.insertWithoutValues entity)
      let rendered ← Assignments.render s values
      pure ("INSERT INTO " ++ Name.quoteWords entity ++ "(" ++
        commaList (rendered.map fun v => Name.quote v.1) ++ ") VALUES (" ++
        commaList (rendered.map Prod.snd) ++ ")")
  | .update entity values filter => do
      if values.isEmpty then throw (.updateWithoutValues entity)
      let rendered ← Assignments.render s values
      let filter ← Predicate.renderOption s filter
      pure ("UPDATE " ++ Name.quoteWords entity ++ " SET " ++
        commaList (rendered.map assignmentText) ++ whereText filter)
  | .delete entity filter => do
      let filter ← Predicate.renderOption s filter
      pure ("DELETE FROM " ++ Name.quoteWords entity ++ whereText filter)

end OracleSql
