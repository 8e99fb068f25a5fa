import OracleSql.Json.Weight
import OracleSql.Query.Error
import OracleSql.Query.Function
import OracleSql.Text.Split

set_option autoImplicit false

namespace OracleSql

def fail {α : Type} (fault : DocumentFault) : Checked α :=
  .error (.document fault)

-- A key that starts with a dollar sign is a word of the language; a text that does so names a
-- column.
def isWord (key : String) : Bool :=
  Text.startsWith "$" key

def Expr.isReference (s : String) : Bool :=
  isWord s && decide (1 < s.utf8ByteSize)

def Expr.ofReference (name : String) : Expr :=
  .named (Text.dropDollars name)

def integerArgument (function : String) (args : List Json) (position : Nat) :
    Checked (Option Int) :=
  match args[position]? with
  | none => .ok none
  | some doc =>
      match doc.int?.filter Text.int64.holds with
      | some n => .ok (some n)
      | none => .error (.notInteger function)

def precisionArgument (function : String) (args : List Json) (position : Nat) :
    Checked (Option Nat) := do
  match ← integerArgument function args position with
  | none => pure none
  | some n =>
      if Text.word32.holds n then pure (some n.toNat) else throw (.precisionRange function)

def clockArgument (args : List Json) : Checked Clock :=
  match args.head?.bind Json.text? with
  | none => .ok .timestamp
  | some name =>
      match Clock.ofName? name with
      | some clock => .ok clock
      | none => .error (.clockName name)

def jsonPathArgument (function : String) (args : List Json) : Checked String :=
  match args.head? with
  | none => .error (.missingArgument function 1)
  | some (.text path) => .ok (Text.dropDollars path)
  | some (.object entries) =>
      match (Keyed.get? entries "$name").bind Json.text? with
      | some path => .ok (Text.dropDollars path)
      | none => fail .jsonReference
  | some _ => fail .jsonPath

def Join.readEntity : Json → Checked (Entity × JoinKind)
  | .text name => .ok (⟨name, none⟩, .inner)
  | .object entries =>
      match (Keyed.get? entries "name").bind Json.text? with
      | none => fail .entityName
      | some name =>
          let entity : Entity := ⟨name, (Keyed.get? entries "$as").bind Json.text?⟩
          match (Keyed.get? entries "$join").bind Json.text? with
          | none => .ok (entity, .inner)
          | some kind =>
              match JoinKind.ofName? kind with
              | some kind => .ok (entity, kind)
              | none => fail (.joinKind kind)
  | _ => fail .entityShape

def Predicate.all : List Predicate → Predicate
  | [p] => p
  | items => .and items

def isOperatorTable (entries : List (String × Json)) : Bool :=
  !entries.isEmpty && entries.all fun e => isWord e.1

mutual

def Expr.read (doc : Json) : Checked Expr :=
  match doc with
  | .text s =>
      if Expr.isReference s then .ok (.named (String.ofList (s.toList.drop 1)))
      else .ok (.value (.text s))
  | .object entries =>
      if (Keyed.get? entries "$select").isSome then
        (Query.read (.object entries)).map .select
      else
        match entries with
        | [(key, inner)] =>
            if key = "$name" then
              match inner.text? with
              | some name => .ok (.ofReference name)
              | none => fail .nameShape
            else if key = "$value" ∨ key = "$literal" then .ok (.value (Value.ofJson inner))
            else if isWord key then
              (Call.read (String.ofList (key.toList.drop 1)) inner).map .call
            else .ok (.value (Value.ofJson (.object [(key, inner)])))
        | entries => .ok (.value (Value.ofJson (.object entries)))
  | doc => .ok (.value (Value.ofJson doc))
termination_by 16 * doc.weight + 2
decreasing_by all_goals grind [Json.weight, Json.weightOfEntries]

def Expr.readArgument (function : String) (args : List Json) (position : Nat) : Checked Expr :=
  match _h : args[position]? with
  | some doc => Expr.read doc
  | none => .error (.missingArgument function (position + 1))
termination_by 16 * Json.weightOfItems args + 3
decreasing_by have := Json.weight_le_of_getElem? _h; omega

def Expr.readAll (docs : List Json) : Checked (List Expr) :=
  match docs with
  | [] => .ok []
  | doc :: rest => do
      let e ← Expr.read doc
      let rest ← Expr.readAll rest
      pure (e :: rest)
termination_by 16 * Json.weightOfItems docs + 3
decreasing_by all_goals grind [Json.weightOfItems, Json.weight_pos]

def Field.read (doc : Json) : Checked Field :=
  match doc with
  | .text name => .ok ⟨.ofReference name, none⟩
  | .object [(key, inner)] =>
      if isWord key then (Expr.read (.object [(key, inner)])).map fun e => ⟨e, none⟩
      else (Expr.read inner).map fun e => ⟨e, some key⟩
  | .object _ => fail (.notSingleKey "a field")
  | _ => fail .fieldShape
termination_by 16 * doc.weight + 3
decreasing_by all_goals grind [Json.weight, Json.weightOfEntries]

def Field.readAll (docs : List Json) : Checked (List Field) :=
  match docs with
  | [] => .ok []
  | doc :: rest => do
      let f ← Field.read doc
      let rest ← Field.readAll rest
      pure (f :: rest)
termination_by 16 * Json.weightOfItems docs + 4
decreasing_by all_goals grind [Json.weightOfItems, Json.weight_pos]

def Field.readAliased (entries : List (String × Json)) : Checked (List Field) :=
  match entries with
  | [] => .ok []
  | (name, doc) :: rest => do
      let e ← Expr.read doc
      let rest ← Field.readAliased rest
      pure (⟨e, some name⟩ :: rest)
termination_by 16 * Json.weightOfEntries entries + 4
decreasing_by all_goals grind [Json.weightOfEntries, Json.weight_pos]

def Field.readList (doc : Json) : Checked (List Field) :=
  match doc with
  | .array items => Field.readAll items
  | .object entries =>
      if entries.any fun e => isWord e.1 then (Field.read (.object entries)).map fun f => [f]
      else Field.readAliased entries
  | doc => (Field.read doc).map fun f => [f]
termination_by 16 * doc.weight + 5
decreasing_by all_goals grind [Json.weight]

def Field.readGroups (docs : List Json) : Checked (List Field) :=
  match docs with
  | [] => .ok []
  | doc :: rest => do
      let fields ← Field.readList doc
      let rest ← Field.readGroups rest
      pure (fields ++ rest)
termination_by 16 * Json.weightOfItems docs + 6
decreasing_by all_goals grind [Json.weightOfItems, Json.weight_pos]

def OrderTerm.read (doc : Json) : Checked OrderTerm :=
  match doc with
  | .text name => .ok ⟨.ofReference name, .ascending⟩
  | .object [(key, inner)] =>
      if key = "$asc" then (Expr.read inner).map fun e => ⟨e, .ascending⟩
      else if key = "$desc" then (Expr.read inner).map fun e => ⟨e, .descending⟩
      else (Expr.read (.object [(key, inner)])).map fun e => ⟨e, .ascending⟩
  | .object _ => fail (.notSingleKey "an $order item")
  | _ => fail .orderShape
termination_by 16 * doc.weight + 3
decreasing_by all_goals grind [Json.weight, Json.weightOfEntries]

def OrderTerm.readAll (docs : List Json) : Checked (List OrderTerm) :=
  match docs with
  | [] => .ok []
  | doc :: rest => do
      let term ← OrderTerm.read doc
      let rest ← OrderTerm.readAll rest
      pure (term :: rest)
termination_by 16 * Json.weightOfItems docs + 4
decreasing_by all_goals grind [Json.weightOfItems, Json.weight_pos]

def Call.read (name : String) (doc : Json) : Checked Call :=
  match FunctionForm.ofName? name with
  | none => .error (.unknownFunction name)
  | some (.unary f) => (Expr.readArgument name doc.arguments 0).map (.unary f)
  | some (.binary f) => do
      let a ← Expr.readArgument name doc.arguments 0
      let b ← Expr.readArgument name doc.arguments 1
      pure (.binary f a b)
  | some (.matching f) => do
      let source ← Expr.readArgument name doc.arguments 0
      let pattern ← Expr.readArgument name doc.arguments 1
      pure (.matching f source pattern)
  | some (.extract part) => (Expr.readArgument name doc.arguments 0).map (.extract part)
  | some .now => .ok (.now .timestamp)
  | some .clock => (clockArgument doc.arguments).map .now
  | some .substring => do
      let source ← Expr.readArgument name doc.arguments 0
      let start ← integerArgument name doc.arguments 1
      let length? ← integerArgument name doc.arguments 2
      pure (.substring source (start.getD 0) length?)
  | some .concat => (Expr.readAll doc.arguments).map .concat
  | some .round => do
      let e ← Expr.readArgument name doc.arguments 0
      let digits ← Expr.readAll ((doc.arguments.drop 1).take 1)
      pure (.round e digits.head?)
  | some .toDecimal => do
      let e ← Expr.readArgument name doc.arguments 0
      let precision ← precisionArgument name doc.arguments 1
      let scale ← precisionArgument name doc.arguments 2
      pure (.toDecimal e precision scale)
  | some .jsonGet => (jsonPathArgument name doc.arguments).map .jsonGet
  | some .jsonObject => (Field.readGroups doc.arguments).map .jsonObject
  | some .jsonArray =>
      match doc with
      | .array [.object entries] => (Expr.read (.object entries)).map .jsonArray
      | doc => (Expr.read doc).map .jsonArray
  | some .jsonGroupArray => (Expr.readArgument name doc.arguments 0).map .jsonGroupArray
  | some .cond => do
      let condition ← Predicate.readCase name doc.arguments
      let yes ← Expr.readArgument name doc.arguments 1
      let no ← Expr.readArgument name doc.arguments 2
      pure (.cond condition yes no)
  | some .uuid => .ok .uuid
  | some .rowIndex => (OrderTerm.readAll doc.arguments).map .rowIndex
termination_by 16 * doc.weight + 8
decreasing_by
  all_goals
    grind [Json.weight, Json.weightOfItems, Json.weightOfItems_arguments_le,
      Json.weightOfItems_drop_le, Json.weightOfItems_take_le]

def Predicate.readCase (function : String) (args : List Json) : Checked Predicate :=
  match args with
  | [] => .error (.missingArgument function 1)
  | .object entries :: _ =>
      match _h : Keyed.get? entries "$where" with
      | some filter => Predicate.read filter
      | none => Predicate.read (.object entries)
  | doc :: _ => Predicate.read doc
termination_by 16 * Json.weightOfItems args + 6
decreasing_by all_goals grind [Json.weight, Json.weightOfItems, → Json.weight_le_of_get?]

-- Several entries are several conditions that all hold.
def Predicate.read (doc : Json) : Checked Predicate :=
  match doc with
  | .object [] => fail (.notSingleKey "a condition")
  | .object [(key, inner)] => Predicate.readEntry key inner
  | .object entries => (Predicate.readEntries entries).map .and
  | _ => fail (.notObject "a condition")
termination_by 16 * doc.weight + 5
decreasing_by all_goals grind [Json.weight, Json.weightOfEntries]

def Predicate.readAll (docs : List Json) : Checked (List Predicate) :=
  match docs with
  | [] => .ok []
  | doc :: rest => do
      let p ← Predicate.read doc
      let rest ← Predicate.readAll rest
      pure (p :: rest)
termination_by 16 * Json.weightOfItems docs + 6
decreasing_by all_goals grind [Json.weightOfItems, Json.weight_pos]

def Predicate.readEntries (entries : List (String × Json)) : Checked (List Predicate) :=
  match entries with
  | [] => .ok []
  | (key, inner) :: rest => do
      let p ← Predicate.readEntry key inner
      let rest ← Predicate.readEntries rest
      pure (p :: rest)
termination_by 16 * Json.weightOfEntries entries + 10
decreasing_by all_goals grind [Json.weightOfEntries, Json.weight_pos]

/-- A connective, an operator, a call, or a column with what it is compared to. -/
def Predicate.readEntry (key : String) (inner : Json) : Checked Predicate :=
  match key with
  | "$and" => (Predicate.readAll inner.arguments).map .and
  | "$or" => (Predicate.readAll inner.arguments).map .or
  | "$nor" => (Predicate.readAll inner.arguments).map .nor
  | "$not" => (Predicate.readAll inner.arguments).map fun items => .not (.all items)
  | key =>
      match Operator.ofName? key with
      | some _ => do
          let left ← Expr.readArgument key inner.arguments 0
          Predicate.readOperator key left (inner.arguments.drop 1)
      | none =>
          if isWord key then
            (Call.read (String.ofList (key.toList.drop 1)) inner).map fun f => .holds (.call f)
          else
            match inner with
            | .object entries =>
                if isOperatorTable entries then
                  (Predicate.readOperators (.named key) entries).map .all
                else (Expr.read (.object entries)).map (.compare (.named key) .eq)
            | inner => (Expr.read inner).map (.compare (.named key) .eq)
termination_by 16 * inner.weight + 9
decreasing_by
  all_goals
    grind [Json.weight, Json.weightOfItems, Json.weightOfItems_arguments_le,
      Json.weightOfItems_drop_le]

def Predicate.readOperators (left : Expr) (entries : List (String × Json)) :
    Checked (List Predicate) :=
  match entries with
  | [] => .ok []
  | (op, operand) :: rest => do
      let p ←
        match op, operand with
        | "$between", .array items => Predicate.readOperator op left items
        | op, operand => Predicate.readOperator op left [operand]
      let rest ← Predicate.readOperators left rest
      pure (p :: rest)
termination_by 16 * Json.weightOfEntries entries + 5
decreasing_by
  all_goals grind [Json.weight, Json.weightOfItems, Json.weightOfEntries, Json.weight_pos]

def Predicate.readOperator (op : String) (left : Expr) (operands : List Json) :
    Checked Predicate :=
  match Operator.ofName? op with
  | some (.compare c) => (Expr.readArgument op operands 0).map (.compare left c)
  | some .between => do
      let low ← Expr.readArgument op operands 0
      let high ← Expr.readArgument op operands 1
      pure (.between left low high)
  | some (.oneOf negated) =>
      match operands with
      | .array items :: _ => (Expr.readAll items).map (.oneOf negated left)
      | operands => (Expr.readArgument op operands 0).map fun e => .oneOf negated left [e]
  | none => fail (.operator op)
termination_by 16 * Json.weightOfItems operands + 4
decreasing_by all_goals grind [Json.weight, Json.weightOfItems]

-- Two expressions to be equal, or a condition.
def Join.readCondition (doc : Json) : Checked Predicate :=
  match doc with
  | .array [a, b] => do
      let a ← Expr.read a
      let b ← Expr.read b
      pure (.compare a .eq b)
  | doc => Predicate.read doc
termination_by 16 * doc.weight + 6
decreasing_by all_goals grind [Json.weight, Json.weightOfItems]

def Join.read (doc : Json) : Checked Join :=
  match doc with
  | .object entries => do
      let some entityDoc := Keyed.get? entries "$entity" | fail .expandEntity
      let (entity, kind) ← Join.readEntity entityDoc
      match _h : Keyed.get? entries "$with" with
      | some condition => (Join.readCondition condition).map fun p => ⟨kind, entity, p⟩
      | none => fail .expandCondition
  | _ => fail (.notObject "an $expand item")
termination_by 16 * doc.weight + 6
decreasing_by all_goals grind [Json.weight, → Json.weight_le_of_get?]

def Join.readAll (docs : List Json) : Checked (List Join) :=
  match docs with
  | [] => .ok []
  | doc :: rest => do
      let j ← Join.read doc
      let rest ← Join.readAll rest
      pure (j :: rest)
termination_by 16 * Json.weightOfItems docs + 7
decreasing_by all_goals grind [Json.weightOfItems, Json.weight_pos]

def Query.read (doc : Json) : Checked Query :=
  match doc with
  | .object entries => do
      let fixed := ((Keyed.get? entries "$fixed").bind Json.bool?).getD false
      let (entity, fields) ←
        match _h : Keyed.get? entries "$select" with
        | some (.object [(name, fields)]) => do
            let alias? := (Keyed.get? entries "$alias").bind Json.text?
            let fields ← Field.readList fields
            pure (if fixed then none else some ⟨name, alias?⟩, fields)
        | some (.object _) => fail (.notSingleKey "$select")
        | some _ => fail (.notObject "$select")
        | none => if fixed then pure (none, []) else throw .missingEntity
      let filter ← Query.readFilter entries
      let joins ←
        match _h : Keyed.get? entries "$expand" with
        | some doc => Join.readAll doc.arguments
        | none => pure []
      let order ←
        match _h : Keyed.get? entries "$order" with
        | some doc => OrderTerm.readAll doc.arguments
        | none => pure []
      let group ←
        match _h : Keyed.get? entries "$group" with
        | some doc => Expr.readAll doc.arguments
        | none => pure []
      pure {
        entity, fields, fixed, filter, joins, order, group
        distinct := ((Keyed.get? entries "$distinct").bind Json.bool?).getD false
        skip := (Keyed.get? entries "$skip").bind Json.nat?
        take := (Keyed.get? entries "$take").bind Json.nat? }
  | _ => fail (.notObject "a query")
termination_by 16 * doc.weight + 1
decreasing_by
  all_goals
    grind [Json.weight, Json.weightOfEntries, → Json.weight_le_of_get?,
      Json.weightOfItems_arguments_le]

def Query.readFilter (entries : List (String × Json)) : Checked (Option Predicate) :=
  match _h : Keyed.get? entries "$where" with
  | some doc => (Predicate.read doc).map some
  | none => .ok none
termination_by 16 * Json.weightOfEntries entries + 6
decreasing_by grind [→ Json.weight_le_of_get?]

end

def OrderTerm.readList (doc : Json) : Checked (List OrderTerm) :=
  OrderTerm.readAll doc.arguments

def Join.readList (doc : Json) : Checked (List Join) :=
  Join.readAll doc.arguments

def Assignments.readTarget (word : String) : Json → Checked (String × Assignments)
  | .object [(entity, .object values)] => do
      let fields ← Field.readAliased values
      pure (entity, fields.map fun f => (f.alias?.getD "", f.expr))
  | .object [_] => fail (.notObject word)
  | .object _ => fail (.notSingleKey word)
  | _ => fail (.notObject word)

def Statement.read (doc : Json) : Checked Statement :=
  match doc with
  | .object entries =>
      match Keyed.get? entries "$insert", Keyed.get? entries "$update",
          Keyed.get? entries "$delete" with
      | some target, _, _ => do
          let (entity, values) ← Assignments.readTarget "$insert" target
          pure (.insert entity values)
      | none, some target, _ => do
          let (entity, values) ← Assignments.readTarget "$update" target
          let filter ← Query.readFilter entries
          pure (.update entity values filter)
      | none, none, some (.text entity) => do
          let filter ← Query.readFilter entries
          pure (.delete entity filter)
      | none, none, some _ => fail .deleteTarget
      | none, none, none => (Query.read (.object entries)).map .select
  | _ => fail (.notObject "a statement")

end OracleSql
