import OracleSql.Proofs.Literal.Complete
import OracleSql.Query.Render

set_option autoImplicit false

namespace OracleSql

namespace Literal

theorem evenRuns_around_iff {before after : String} (s : String) (first : '\'' ∉ before.toList)
    (last : '\'' ∉ after.toList) : EvenRuns (before ++ s ++ after) ↔ EvenRuns s := by
  have starts : before.toList.getLast? ≠ some '\'' := fun found =>
    first (List.mem_of_getLast? found)
  have ends : after.toList.head? ≠ some '\'' := fun found => last (List.mem_of_head? found)
  simp [EvenRuns, hasEvenRuns_append_of_last starts, hasEvenRuns_append_of_head ends,
    hasEvenRuns_of_absent first, hasEvenRuns_of_absent last]

theorem evenRuns_between_iff {a b separator : String} (some : separator ≠ "")
    (absent : '\'' ∉ separator.toList) :
    EvenRuns (a ++ separator ++ b) ↔ EvenRuns a ∧ EvenRuns b := by
  have starts : separator.toList.getLast? ≠ Option.some '\'' := fun found =>
    absent (List.mem_of_getLast? found)
  have ends : (separator.toList ++ b.toList).head? ≠ Option.some '\'' := by
    rw [List.head?_append_of_ne_nil _ (by simpa using some)]
    exact fun found => absent (List.mem_of_head? found)
  simp [EvenRuns, hasEvenRuns_append_of_head ends, hasEvenRuns_append_of_last starts,
    hasEvenRuns_of_absent absent]

theorem evenRuns_intercalate_iff {separator : String} (some : separator ≠ "")
    (absent : '\'' ∉ separator.toList) {items : List String} :
    EvenRuns (separator.intercalate items) ↔ ∀ s ∈ items, EvenRuns s := by
  induction items with
  | nil => exact iff_of_true (by simpa using (by decide : EvenRuns "")) (by simp)
  | cons s rest ih =>
    cases rest with
    | nil => simp
    | cons t rest =>
      rw [String.intercalate_cons_cons, evenRuns_between_iff some absent, ih]
      simp

theorem not_evenRuns_enclosed {before s after : String} (start : '\'' ∉ before.toList)
    (bare : Bare s) (some : s ≠ "") : ¬EvenRuns (before ++ ("'" ++ s ++ "'") ++ after) := by
  intro even
  have run : QuoteRun (before ++ ("'" ++ s ++ "'") ++ after).toList before.toList 1
      (s ++ "'" ++ after).toList := by
    refine ⟨by simp, fun found => start (List.mem_of_getLast? found), fun found => ?_⟩
    rw [String.append_assoc, String.toList_append,
      List.head?_append_of_ne_nil _ (by simpa using some)] at found
    exact absurd (bare '\'' (List.mem_of_head? found)) (by decide)
  have width := run.even even
  simp at width

end Literal

open Literal

mutual

-- Only a call stands in the way, with a literal of its own that is not empty.
def Value.fitsQuotes : Value → Bool
  | .instant _ => false
  | .blob bytes => bytes.isEmpty
  | .array items => !items.any Value.isObject || Value.allFitQuotes items
  | _ => true

def Value.allFitQuotes : List Value → Bool
  | [] => true
  | item :: rest => item.fitsQuotes && Value.allFitQuotes rest

end

theorem not_evenRuns_ofInstant (t : Instant) (offset : Int) : ¬EvenRuns (ofInstant t offset) := by
  have some : timestampText t offset ≠ "" := by
    intro empty
    have minutes := (String.append_eq_empty_iff.1 empty).1
    exact absurd (String.append_eq_empty_iff.1 minutes).2 (by decide)
  rw [ofInstant_eq]
  exact not_evenRuns_enclosed (by decide) (bare_timestampText t offset) some

theorem evenRuns_blob_iff (bytes : List UInt8) :
    EvenRuns ("HEXTORAW('" ++ Value.hex bytes ++ "')") ↔ bytes.isEmpty = true := by
  cases bytes with
  | nil => exact iff_of_true (by decide) rfl
  | cons byte rest =>
    have some : Value.hex (byte :: rest) ≠ "" := by simp [Value.hex, Value.hexDigits]
    rw [blob_eq]
    exact iff_of_false (not_evenRuns_enclosed (by decide) (bare_hex _) some) (by simp)

variable (offset : Int)

mutual

theorem evenRuns_ofValue_iff : ∀ v : Value, EvenRuns (ofValue offset true v) ↔ v.fitsQuotes = true
  | .null => iff_of_true (evenRuns_ofValue offset .null rfl) rfl
  | .bool b => iff_of_true (evenRuns_ofValue offset (.bool b) rfl) rfl
  | .int n => iff_of_true (evenRuns_of_bare (bare_toString_int n)) rfl
  | .float x => iff_of_true (evenRuns_ofValue offset (.float x) rfl) rfl
  | .text s => iff_of_true (evenRuns_escapeInner s) rfl
  | .instant t => iff_of_false (not_evenRuns_ofInstant t offset) Bool.false_ne_true
  | .blob bytes => evenRuns_blob_iff bytes
  | .object _ => iff_of_true (evenRuns_escapeInner _) rfl
  | .array items => by
      unfold ofValue Value.fitsQuotes
      split
      next listed =>
        rw [evenRuns_intercalate_iff (by decide) (by decide), evenRuns_ofValues_iff items, listed]
        rfl
      next document =>
        have none : items.any Value.isObject = false := by simpa using document
        exact iff_of_true (evenRuns_escapeInner _) (by rw [none]; rfl)

theorem evenRuns_ofValues_iff : ∀ items : List Value,
    (∀ s ∈ ofValues offset true items, EvenRuns s) ↔ Value.allFitQuotes items = true
  | [] => iff_of_true (by simp [ofValues]) rfl
  | item :: rest => by
      rw [ofValues, List.forall_mem_cons, Value.allFitQuotes, Bool.and_eq_true,
        evenRuns_ofValue_iff item, evenRuns_ofValues_iff rest]

end

theorem Matcher.isLiteral_literal_iff (f : Matcher) (v : Value) :
    IsLiteral (f.literal offset v) ↔ v.fitsQuotes = true := by
  have first : '\'' ∉ f.anchors.1.toList := by cases f <;> decide
  have last : '\'' ∉ f.anchors.2.toList := by cases f <;> decide
  have parts : f.literal offset v =
      "'" ++ (f.anchors.1 ++ ofValue offset true v ++ f.anchors.2) ++ "'" := by
    simp only [literal, String.append_assoc]
  rw [parts, isLiteral_enclosed_iff, evenRuns_around_iff _ first last, evenRuns_ofValue_iff]

def pathLiteral (properties : List String) : String :=
  "'" ++ ("$." ++ ".".intercalate properties) ++ "'"

theorem isLiteral_pathLiteral_iff (properties : List String) :
    IsLiteral (pathLiteral properties) ↔ ∀ property ∈ properties, EvenRuns property := by
  have around := evenRuns_around_iff (".".intercalate properties) (by decide : '\'' ∉ "$.".toList)
    (by decide : '\'' ∉ "".toList)
  rw [String.append_empty] at around
  rw [pathLiteral, isLiteral_enclosed_iff, around, evenRuns_intercalate_iff (by decide) (by decide)]

theorem jsonGetText_eq_ok_iff {path sql : String} : jsonGetText path = .ok sql ↔
    ∃ table column property rest,
      Text.splitText '.' path = table :: column :: property :: rest ∧
        sql = "JSON_VALUE(" ++ Name.quote table ++ "." ++ Name.quote column ++ ", " ++
          pathLiteral (property :: rest) ++ ")" := by
  have start : ", '$." = ", " ++ ("'" ++ "$.") := by decide +kernel
  have finish : "')" = "'" ++ ")" := by decide +kernel
  unfold jsonGetText
  split
  next table column property rest parts =>
    simp only [parts, start, finish, pathLiteral, String.append_assoc, Except.ok.injEq,
      List.cons.injEq]
    constructor
    next => rintro rfl; exact ⟨table, column, property, rest, ⟨rfl, rfl, rfl, rfl⟩, rfl⟩
    next => rintro ⟨_, _, _, _, ⟨rfl, rfl, rfl, rfl⟩, rfl⟩; rfl
  next short =>
    refine ⟨nofun, ?_⟩
    rintro ⟨table, column, property, rest, parts, -⟩
    rw [short] at parts
    simp at parts
  next other _ =>
    refine ⟨nofun, ?_⟩
    rintro ⟨table, column, property, rest, parts, -⟩
    exact absurd parts (other table column property rest)

/-- A path is one literal unless a property has an odd run of quotes, and a pattern unless an
instant or a blob stands in it. -/
theorem Call.spliced_literals (s : Settings) :
    (∀ path sql, (Call.jsonGet path).render s = .ok sql ↔
      ∃ table column property rest,
        Text.splitText '.' path = table :: column :: property :: rest ∧
          sql = "JSON_VALUE(" ++ Name.quote table ++ "." ++ Name.quote column ++ ", " ++
            pathLiteral (property :: rest) ++ ")") ∧
      (∀ properties, IsLiteral (pathLiteral properties) ↔
        ∀ property ∈ properties, EvenRuns property) ∧
      (∀ f source v sql, (Call.matching f source (.value v)).render s = .ok sql ↔
        ∃ text, source.render s = .ok text ∧ sql = f.apply text (f.literal s.offset v)) ∧
      ∀ f : Matcher, ∀ v, IsLiteral (f.literal s.offset v) ↔ v.fitsQuotes = true := by
  refine ⟨fun path sql => ?_, isLiteral_pathLiteral_iff, fun f source v sql => ?_,
    Matcher.isLiteral_literal_iff s.offset⟩
  next =>
    rw [Call.render]
    exact jsonGetText_eq_ok_iff
  next =>
    rw [Call.render]
    cases source.render s with
    | error e =>
      constructor
      next => rintro ⟨⟩
      next => rintro ⟨_, ⟨⟩, _⟩
    | ok text =>
      constructor
      next => rintro ⟨⟩; exact ⟨text, rfl, rfl⟩
      next => rintro ⟨_, ⟨⟩, rfl⟩; rfl

theorem quote_ends_path :
    (Call.jsonGet "T.c.it's").render (.default 3600) = .ok "JSON_VALUE(\"T\".\"c\", '$.it's')" ∧
      ¬IsLiteral (pathLiteral ["it's"]) ∧
      Sql.scan "JSON_VALUE(\"T\".\"c\", '$.it's')".toList = none ∧
      ¬IsLiteral (Matcher.startsWith.literal 3600 (.instant ⟨0, 0⟩)) := by
  refine ⟨by decide +kernel, ?_, by decide +kernel, ?_⟩
  next =>
    rw [isLiteral_pathLiteral_iff]
    decide
  next =>
    rw [Matcher.isLiteral_literal_iff]
    decide

end OracleSql
