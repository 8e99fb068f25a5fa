import OracleSql.Query.Reader

set_option autoImplicit false

namespace OracleSql

def Operator.words : List String :=
  ["$eq", "$ne", "$gt", "$gte", "$lt", "$lte", "$in", "$nin", "$between"]

theorem Operator.isSome_ofName?_iff {word : String} :
    (ofName? word).isSome = true ↔ word ∈ words := by
  constructor
  next =>
    unfold ofName?
    split
    next compared =>
      unfold Comparison.ofName? at compared
      split at compared <;> simp_all [words]
    next => split <;> simp [words]
  next =>
    have known : ∀ word ∈ words, (ofName? word).isSome = true := by decide
    exact known word

namespace Json

-- A column as documents refer to it.
def reference (field : String) : Json :=
  .text ("$" ++ field)

/-- What the column is compared to. The bounds of `$between` may stand in a list. -/
def operands (word : String) (operand : Json) : List Json :=
  match word, operand with
  | "$between", .array items => items
  | _, operand => [operand]

def operatorFirst (field : String) (entry : String × Json) : Json :=
  .object [(entry.1, .array (reference field :: operands entry.1 entry.2))]

def conjunction (docs : List Json) : Json :=
  .object [("$and", .array docs)]

def conjoined : List Json → Json
  | [doc] => doc
  | docs => conjunction docs

def IsOperators (doc : Json) : Prop :=
  ∃ entries, doc = .object entries ∧ entries ≠ [] ∧ ∀ e ∈ entries, isWord e.1 = true

theorem isOperators_object_iff {entries : List (String × Json)} :
    (object entries).IsOperators ↔ isOperatorTable entries = true := by
  simp [IsOperators, isOperatorTable]

theorem isWord_of_mem_words : ∀ word ∈ Operator.words, isWord word = true := by
  decide

theorem isOperators_of_words {entries : List (String × Json)} (some : entries ≠ [])
    (words : ∀ e ∈ entries, e.1 ∈ Operator.words) : (object entries).IsOperators :=
  ⟨entries, rfl, some, fun e member => isWord_of_mem_words e.1 (words e member)⟩

end Json

namespace Expr

theorem read_reference {field : String} (named : field ≠ "") :
    Expr.read (Json.reference field) = .ok (.named field) := by
  have word : isWord ("$" ++ field) = true := startsWith_append (startsWith_literal rfl) _
  have long : 1 < ("$" ++ field).utf8ByteSize := by
    have some : field.utf8ByteSize ≠ 0 := mt String.utf8ByteSize_eq_zero_iff.1 named
    have one : "$".utf8ByteSize = 1 := rfl
    rw [String.utf8ByteSize_append, one]
    omega
  have rest : String.ofList (("$" ++ field).toList.drop 1) = field := by
    simp [String.toList_append]
  rw [Json.reference, Expr.read, if_pos, rest]
  rw [isReference, word, decide_eq_true long]
  rfl

theorem readArgument_zero (function : String) (doc : Json) (docs : List Json) :
    readArgument function (doc :: docs) 0 = Expr.read doc := by
  rw [readArgument]
  rfl

end Expr

namespace Predicate

open Json

theorem read_single (entry : String × Json) :
    read (.object [entry]) = readEntry entry.1 entry.2 := by
  rw [read]

theorem read_conjunction (docs : List Json) :
    read (conjunction docs) = (readAll docs).map .and := by
  rw [conjunction, read_single, readEntry]
  rfl

theorem readEntry_operator {word : String} (operator : word ∈ Operator.words) (doc : Json) :
    readEntry word doc = Expr.readArgument word doc.arguments 0 >>= fun left =>
      readOperator word left (doc.arguments.drop 1) := by
  obtain ⟨op, known⟩ := Option.isSome_iff_exists.1 (Operator.isSome_ofName?_iff.2 operator)
  rw [readEntry.eq_def]
  split
  case h_5 => rw [known]
  all_goals cases known

theorem readEntry_column {field : String} (column : isWord field = false) (doc : Json) :
    readEntry field doc =
      match doc with
      | .object entries =>
          if isOperatorTable entries then (readOperators (.named field) entries).map .all
          else (Expr.read (.object entries)).map (.compare (.named field) .eq)
      | doc => (Expr.read doc).map (.compare (.named field) .eq) := by
  have other : Operator.ofName? field = none := by
    refine Option.not_isSome_iff_eq_none.1 fun known => ?_
    have word := isWord_of_mem_words field (Operator.isSome_ofName?_iff.1 known)
    exact Bool.false_ne_true (column.symm.trans word)
  rw [readEntry.eq_def]
  split
  case h_5 =>
    rw [other]
    simp only [column]
    rfl
  all_goals cases column

theorem readEntry_operators {field : String} (column : isWord field = false)
    {ops : List (String × Json)} (operators : (Json.object ops).IsOperators) :
    readEntry field (.object ops) = (readOperators (.named field) ops).map .all :=
  (readEntry_column column _).trans (if_pos (isOperators_object_iff.1 operators))

theorem readEntry_value {field : String} (column : isWord field = false) {value : Json}
    (other : ¬value.IsOperators) :
    readEntry field value = (Expr.read value).map (.compare (.named field) .eq) := by
  rw [readEntry_column column]
  cases value with
  | object entries => exact if_neg (mt isOperators_object_iff.2 other)
  | _ => rfl

theorem read_operatorFirst {field : String} (named : field ≠ "") {entry : String × Json}
    (operator : entry.1 ∈ Operator.words) :
    read (operatorFirst field entry) =
      readOperator entry.1 (.named field) (operands entry.1 entry.2) := by
  rw [operatorFirst, read_single, readEntry_operator operator, arguments, Expr.readArgument_zero,
    Expr.read_reference named]
  rfl

theorem read_equal {field : String} (named : field ≠ "") (value : Json) :
    read (.object [("$eq", .array [reference field, value])]) =
      (Expr.read value).map (.compare (.named field) .eq) := by
  have single : operands "$eq" value = [value] := by simp [operands]
  have first : Json.object [("$eq", .array [reference field, value])] =
      operatorFirst field ("$eq", value) := by
    rw [operatorFirst, single]
  have operator : ("$eq", value).1 ∈ Operator.words := List.mem_cons_self
  have known : Operator.ofName? "$eq" = some (.compare .eq) := rfl
  rw [first, read_operatorFirst named operator, single, readOperator.eq_def, known]
  simp only [Expr.readArgument_zero]

theorem readOperators_cons (left : Expr) (word : String) (operand : Json)
    (rest : List (String × Json)) :
    readOperators left ((word, operand) :: rest) = (do
      let p ← readOperator word left (operands word operand)
      let rest ← readOperators left rest
      pure (p :: rest)) := by
  rw [readOperators.eq_def]
  simp only
  split
  next => rfl
  next spread =>
    rw [operands]
    exact spread

theorem readAll_cons (doc : Json) (docs : List Json) :
    readAll (doc :: docs) = (do
      let p ← read doc
      let rest ← readAll docs
      pure (p :: rest)) := by
  rw [readAll]

theorem readOperators_eq_readAll {field : String} (named : field ≠ "")
    {ops : List (String × Json)} (words : ∀ e ∈ ops, e.1 ∈ Operator.words) :
    readOperators (.named field) ops = readAll (ops.map (operatorFirst field)) := by
  induction ops with
  | nil => rw [readOperators, List.map_nil, readAll]
  | cons entry rest ih =>
    obtain ⟨first, later⟩ := List.forall_mem_cons.1 words
    rw [readOperators_cons, List.map_cons, readAll_cons, read_operatorFirst named first, ih later]

theorem read_conjoined {docs : List Json} (some : docs ≠ []) :
    read (conjoined docs) = (readAll docs).map .all := by
  match docs with
  | [doc] =>
    rw [conjoined, readAll_cons, readAll]
    cases read doc <;> rfl
  | first :: second :: rest =>
    have conjunction_eq : conjoined (first :: second :: rest) =
        conjunction (first :: second :: rest) := rfl
    -- At least two conditions are read, or an error comes first.
    rw [conjunction_eq, read_conjunction, readAll_cons, readAll_cons]
    cases read first with
    | error => rfl
    | ok =>
      cases read second with
      | error => rfl
      | ok => cases readAll rest <;> rfl

theorem readEntries_eq_readAll (entries : List (String × Json)) :
    readEntries entries = readAll (entries.map fun e => .object [e]) := by
  induction entries with
  | nil => rw [readEntries, List.map_nil, readAll]
  | cons entry rest ih => rw [readEntries, List.map_cons, readAll_cons, read_single, ih]

theorem read_several {entries : List (String × Json)} (several : 1 < entries.length) :
    read (.object entries) = (readEntries entries).map .and := by
  match entries with
  | first :: second :: rest =>
    rw [read]
    all_goals simp

/-- A column with a value is compared to it, and any number of operators or entries stand for their
conjunction in order. -/
theorem read_alike :
    (∀ (field : String) (ops : List (String × Json)), field ≠ "" → isWord field = false →
      ops ≠ [] → (∀ e ∈ ops, e.1 ∈ Operator.words) →
        read (.object [(field, .object ops)]) = read (conjoined (ops.map (operatorFirst field)))) ∧
      (∀ (field : String) (value : Json), field ≠ "" → isWord field = false → ¬value.IsOperators →
        read (.object [(field, value)]) =
          read (.object [("$eq", .array [reference field, value])])) ∧
      ∀ entries : List (String × Json), 1 < entries.length →
        read (.object entries) = read (conjunction (entries.map fun e => .object [e])) := by
  refine ⟨fun field ops named column some words => ?_, fun field value named column other => ?_,
    fun entries several => ?_⟩
  next =>
    have first : ops.map (operatorFirst field) ≠ [] := mt List.map_eq_nil_iff.1 some
    rw [read_single, readEntry_operators column (isOperators_of_words some words),
      readOperators_eq_readAll named words, read_conjoined first]
  next => rw [read_single, readEntry_value column other, read_equal named]
  next => rw [read_several several, readEntries_eq_readAll, read_conjunction]

theorem read_alike_price :
    read (.object [("price",
        .object [("$gt", .int 10), ("$between", .array [.int 20, .int 30]), ("$ne", .array [])])]) =
      read (.object [("$and", .array [
        .object [("$gt", .array [reference "price", .int 10])],
        .object [("$between", .array [reference "price", .int 20, .int 30])],
        .object [("$ne", .array [reference "price", .array []])]])]) :=
  read_alike.1 "price" _ (by decide) (by decide) (by decide) (by decide)

end Predicate

end OracleSql
