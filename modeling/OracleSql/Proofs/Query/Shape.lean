import OracleSql.Proofs.Literal.Runs
import OracleSql.Query.Basic

set_option autoImplicit false

namespace OracleSql

-- The shape of a statement is what remains when the contents of texts and the names of columns are
-- taken out. The star is no name: it stays.
def Name.shape (name : String) : String :=
  if name = "*" then name else ""

def ColumnRef.shape (c : ColumnRef) : ColumnRef :=
  ⟨c.table.map Name.shape, Name.shape c.column⟩

mutual

def Value.shape : Value → Value
  | .text _ => .text ""
  | .array items => .array (Value.shapeAll items)
  | .object entries => .object (Value.shapeEntries entries)
  | v => v

def Value.shapeAll : List Value → List Value
  | [] => []
  | item :: rest => item.shape :: Value.shapeAll rest

def Value.shapeEntries : List (String × Value) → List (String × Value)
  | [] => []
  | (key, value) :: rest => (key, value.shape) :: Value.shapeEntries rest

end

mutual

def Expr.shape : Expr → Expr
  | .column c => .column c.shape
  | .value v => .value v.shape
  | .call f => .call f.shape
  | .select q => .select q.shape

def Call.shape : Call → Call
  | .unary f e => .unary f e.shape
  | .binary f a b => .binary f a.shape b.shape
  | .matching f source pattern => .matching f source.shape pattern.shape
  | .extract part e => .extract part e.shape
  | .now clock => .now clock
  | .substring source start length? => .substring source.shape start length?
  | .concat items => .concat (Expr.shapeAll items)
  | .round e digits => .round e.shape (Expr.shapeOption digits)
  | .toDecimal e precision scale => .toDecimal e.shape precision scale
  | .jsonGet path => .jsonGet path
  | .jsonObject members => .jsonObject (Field.shapeAll members)
  | .jsonArray e => .jsonArray e.shape
  | .jsonGroupArray e => .jsonGroupArray e.shape
  | .cond condition yes no => .cond condition.shape yes.shape no.shape
  | .uuid => .uuid
  | .rowIndex order => .rowIndex (OrderTerm.shapeAll order)

def Expr.shapeOption : Option Expr → Option Expr
  | none => none
  | some e => some e.shape

def Expr.shapeAll : List Expr → List Expr
  | [] => []
  | e :: rest => e.shape :: Expr.shapeAll rest

def Field.shape : Field → Field
  | ⟨e, alias?⟩ => ⟨e.shape, alias?.map Name.shape⟩

def Field.shapeAll : List Field → List Field
  | [] => []
  | f :: rest => f.shape :: Field.shapeAll rest

def OrderTerm.shapeAll : List OrderTerm → List OrderTerm
  | [] => []
  | ⟨e, direction⟩ :: rest => ⟨e.shape, direction⟩ :: OrderTerm.shapeAll rest

def Predicate.shape : Predicate → Predicate
  | .and items => .and (Predicate.shapeAll items)
  | .or items => .or (Predicate.shapeAll items)
  | .not item => .not item.shape
  | .nor items => .nor (Predicate.shapeAll items)
  | .compare left op right => .compare left.shape op right.shape
  | .oneOf negated e items => .oneOf negated e.shape (Expr.shapeAll items)
  | .between e low high => .between e.shape low.shape high.shape
  | .holds e => .holds e.shape

def Predicate.shapeAll : List Predicate → List Predicate
  | [] => []
  | p :: rest => p.shape :: Predicate.shapeAll rest

def Predicate.shapeOption : Option Predicate → Option Predicate
  | none => none
  | some p => some p.shape

def Join.shapeAll : List Join → List Join
  | [] => []
  | ⟨kind, entity, condition⟩ :: rest => ⟨kind, entity, condition.shape⟩ :: Join.shapeAll rest

def Query.shape : Query → Query
  | ⟨entity, fields, fixed, distinct, filter, joins, order, group, skip, take⟩ =>
      ⟨entity, Field.shapeAll fields, fixed, distinct, Predicate.shapeOption filter,
        Join.shapeAll joins, OrderTerm.shapeAll order, Expr.shapeAll group, skip, take⟩

end

def Assignments.shape (values : Assignments) : Assignments :=
  values.map fun (column, e) => (Name.shape column, e.shape)

def Statement.shape : Statement → Statement
  | .select query => .select query.shape
  | .insert entity values => .insert entity values.shape
  | .update entity values filter => .update entity values.shape (Predicate.shapeOption filter)
  | .delete entity filter => .delete entity (Predicate.shapeOption filter)

def Name.isDotted (name : String) : Bool :=
  name.toList.all fun c => Name.isWordChar c || c == '.'

def Entity.isDotted (e : Entity) : Bool :=
  Name.isDotted e.name && e.alias?.all Name.isDotted

mutual

/-- The names of entities are words and dots, paths in documents have no single quote, and patterns
hold neither instants nor blobs. -/
def Expr.isTame : Expr → Bool
  | .column _ => true
  | .value _ => true
  | .call f => f.isTame
  | .select q => q.isTame

def Call.isTame : Call → Bool
  | .unary _ e => e.isTame
  | .binary _ a b => a.isTame && b.isTame
  | .matching _ source pattern => source.isTame && pattern.isPatternTame
  | .extract _ e => e.isTame
  | .now _ => true
  | .substring source _ _ => source.isTame
  | .concat items => Expr.allTame items
  | .round e digits => e.isTame && Expr.optionTame digits
  | .toDecimal e _ _ => e.isTame
  | .jsonGet path => !path.toList.contains '\''
  | .jsonObject members => Field.allTame members
  | .jsonArray e => e.isTame
  | .jsonGroupArray e => e.isTame
  | .cond condition yes no => condition.isTame && yes.isTame && no.isTame
  | .uuid => true
  | .rowIndex order => OrderTerm.allTame order

def Expr.isPatternTame : Expr → Bool
  | .column _ => true
  | .value v => v.isInline
  | .call f => f.isTame
  | .select q => q.isTame

def Expr.optionTame : Option Expr → Bool
  | none => true
  | some e => e.isTame

def Expr.allTame : List Expr → Bool
  | [] => true
  | e :: rest => e.isTame && Expr.allTame rest

def Field.allTame : List Field → Bool
  | [] => true
  | ⟨e, _⟩ :: rest => e.isTame && Field.allTame rest

def OrderTerm.allTame : List OrderTerm → Bool
  | [] => true
  | ⟨e, _⟩ :: rest => e.isTame && OrderTerm.allTame rest

def Predicate.isTame : Predicate → Bool
  | .and items => Predicate.allTame items
  | .or items => Predicate.allTame items
  | .not item => item.isTame
  | .nor items => Predicate.allTame items
  | .compare left _ right => left.isTame && right.isTame
  | .oneOf _ e items => e.isTame && Expr.allTame items
  | .between e low high => e.isTame && low.isTame && high.isTame
  | .holds e => e.isTame

def Predicate.allTame : List Predicate → Bool
  | [] => true
  | p :: rest => p.isTame && Predicate.allTame rest

def Predicate.optionTame : Option Predicate → Bool
  | none => true
  | some p => p.isTame

def Join.allTame : List Join → Bool
  | [] => true
  | ⟨_, entity, condition⟩ :: rest => entity.isDotted && condition.isTame && Join.allTame rest

def Query.isTame : Query → Bool
  | ⟨entity, fields, _, _, filter, joins, order, group, _, _⟩ =>
      entity.all Entity.isDotted && Field.allTame fields && Predicate.optionTame filter &&
        Join.allTame joins && OrderTerm.allTame order && Expr.allTame group

end

def Statement.isTame : Statement → Bool
  | .select query => query.isTame
  | .insert entity values => Name.isDotted entity && values.all fun v => v.2.isTame
  | .update entity values filter =>
      Name.isDotted entity && (values.all fun v => v.2.isTame) && Predicate.optionTame filter
  | .delete entity filter => Name.isDotted entity && Predicate.optionTame filter

end OracleSql
