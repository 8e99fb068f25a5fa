import Mathlib.Algebra.Order.Floor.Semifield
import Mathlib.Data.Rat.Floor
import Mathlib.Tactic.Linarith
import OracleSql.Double.Reading
import OracleSql.Proofs.Database.Identity
import OracleSql.Session.Script

set_option autoImplicit false

namespace OracleSql

def Decimal.value (d : Decimal) : ℚ :=
  d.digits * (10 : ℚ) ^ d.exponent

namespace DecimalText

def quantity? : List Char → Option ℚ
  | '-' :: cs => (ofChars? cs).map fun t => -t.decimal.value
  | '+' :: cs => (ofChars? cs).map fun t => t.decimal.value
  | cs => (ofChars? cs).map fun t => t.decimal.value

/-- There is neither a point nor an exponent. -/
def IsPlain (cs : List Char) : Prop :=
  ∀ c ∈ cs, c ≠ '.' ∧ c ≠ 'e' ∧ c ≠ 'E'

instance (cs : List Char) : Decidable (IsPlain cs) :=
  inferInstanceAs (Decidable (∀ c ∈ cs, c ≠ '.' ∧ c ≠ 'e' ∧ c ≠ 'E'))

theorem IsPlain.of_cons {c : Char} {cs : List Char} (h : IsPlain (c :: cs)) : IsPlain cs :=
  fun d member => h d (List.mem_cons_of_mem c member)

theorem isPlain_of_digits? {cs : List Char} {n : Nat} (h : Text.digits? cs = some n) :
    IsPlain cs := by
  have digits := ((Text.digits?_isSome_iff cs).1 (by rw [h]; rfl)).2
  intro c member
  have digit := List.all_eq_true.1 digits c member
  refine ⟨?_, ?_, ?_⟩
  all_goals
    rintro rfl
    exact absurd digit (by decide)

theorem isPlain_of_integer? {cs : List Char} {n : Int} (h : Text.integer? cs = some n) :
    IsPlain cs := by
  unfold Text.integer? Text.natural? at h
  split at h
  next cs =>
    obtain ⟨m, read, -⟩ := Option.map_eq_some_iff.1 h
    obtain ⟨k, read, -⟩ := Option.bind_eq_some_iff.1 read
    exact List.forall_mem_cons.2 ⟨by decide, isPlain_of_digits? read⟩
  next =>
    obtain ⟨m, read, -⟩ := Option.map_eq_some_iff.1 h
    split at read
    next => exact List.forall_mem_cons.2 ⟨by decide, isPlain_of_digits? read⟩
    next => exact isPlain_of_digits? read

theorem mantissa?_of_isPlain {cs : List Char} (plain : IsPlain cs) :
    mantissa? cs =
      if cs.takeWhile Char.isDigit = [] then none
      else some (cs.takeWhile Char.isDigit, [], cs.dropWhile Char.isDigit) := by
  unfold mantissa?
  cases after : cs.dropWhile Char.isDigit with
  | nil => simp
  | cons c rest =>
    have point : c ≠ '.' := by
      refine (plain c ?_).1
      exact (List.dropWhile_sublist _).subset (after ▸ List.mem_cons_self)
    simp only
    split
    next start =>
      rw [(List.cons.inj start).1] at point
      exact absurd rfl point
    next => simp

theorem digits?_of_isPlain {cs : List Char} {t : DecimalText} (plain : IsPlain cs)
    (read : ofChars? cs = some t) :
    ∃ n : Nat, Text.digits? cs = some n ∧ t.decimal.value = n := by
  rw [ofChars?, mantissa?_of_isPlain plain] at read
  split at read
  next => cases read
  next leading =>
    obtain ⟨_, ⟨⟩, read⟩ := Option.bind_eq_some_iff.1 read
    obtain ⟨exponent, power, ⟨⟩⟩ := Option.bind_eq_some_iff.1 read
    have parts := List.takeWhile_append_dropWhile (p := Char.isDigit) (l := cs)
    cases after : cs.dropWhile Char.isDigit with
    | nil =>
      rw [after] at power parts
      cases power
      rw [List.append_nil] at parts
      have digits : cs.all Char.isDigit = true := by
        rw [← parts]
        exact List.all_takeWhile
      rw [parts] at leading ⊢
      exact ⟨_, if_pos ⟨leading, digits⟩, by simp [decimal, Decimal.value]⟩
    | cons c rest =>
      have member : c ∈ cs := (List.dropWhile_sublist _).subset (after ▸ List.mem_cons_self)
      rw [after, exponent?, if_neg (not_or.2 (plain c member).2)] at power
      cases power

theorem integer?_of_isPlain {cs : List Char} {q : ℚ} (plain : IsPlain cs)
    (read : quantity? cs = some q) : ∃ n, Text.integer? cs = some n ∧ (n : ℚ) = q := by
  unfold quantity? at read
  split at read
  next =>
    obtain ⟨t, taken, rfl⟩ := Option.map_eq_some_iff.1 read
    obtain ⟨n, digits, value⟩ := digits?_of_isPlain plain.of_cons taken
    exact ⟨-(n : Int), by simp [Text.integer?, digits], by simp [value]⟩
  next =>
    obtain ⟨t, taken, rfl⟩ := Option.map_eq_some_iff.1 read
    obtain ⟨n, digits, value⟩ := digits?_of_isPlain plain.of_cons taken
    exact ⟨n, by simp [Text.integer?, Text.natural?, digits], by simp [value]⟩
  next minus plus =>
    obtain ⟨t, taken, rfl⟩ := Option.map_eq_some_iff.1 read
    obtain ⟨n, digits, value⟩ := digits?_of_isPlain plain taken
    refine ⟨n, ?_, by simp [value]⟩
    rw [Text.integer?, Text.natural?, digits]
    next => rfl
    next => exact plus
    next => exact minus

end DecimalText

-- Infinities and not-a-number stand for none.
def Double.quantity? : Double → Option ℚ
  | .finite negative code =>
      let size : ℚ := (binary64.magnitude code : ℚ) / (Nat.pow 2 binary64.unit : Nat)
      some (if negative then -size else size)
  | _ => none

theorem natCast_div_bounds (m n : Nat) :
    ((m / n : Nat) : ℚ) ≤ (m : ℚ) / n ∧ (m : ℚ) / n < (m / n : Nat) + 1 := by
  rw [← Nat.floor_div_eq_div (K := ℚ)]
  exact ⟨Nat.floor_le (by positivity), Nat.lt_floor_add_one _⟩

theorem Double.lt_truncate? {x : Double} {q : ℚ} (h : x.quantity? = some q) :
    ∃ n, x.truncate? = some n ∧ q < n + 1 ∧ ((n : ℚ) ≤ q ∨ n ≤ 0) := by
  cases x with
  | nan | infinite => cases h
  | finite negative code =>
    cases h
    refine ⟨_, rfl, ?_⟩
    obtain ⟨low, high⟩ := natCast_div_bounds (binary64.magnitude code) (Nat.pow 2 binary64.unit)
    cases negative with
    | true =>
      refine ⟨?_, .inr (Int.neg_nonpos_of_nonneg (Int.natCast_nonneg _))⟩
      simp only [if_true, Int.cast_neg, Int.cast_natCast]
      linarith
    | false => exact ⟨high, .inl low⟩

-- Text is read without the blanks around it.
def Json.quantity? : Json → Option ℚ
  | .int n => some n
  | .float x => x.quantity?
  | .text s => DecimalText.quantity? (Text.trimChars Text.isBlank s.toList)
  | _ => none

def Json.IsPlain : Json → Prop
  | .text s => DecimalText.IsPlain (Text.trimChars Text.isBlank s.toList)
  | _ => True

namespace Row

variable {row : Row} {column : String} {value : Json} {q : ℚ}

theorem clamp_bounds {n : Int} (above : q < n + 1) (below : n < 9223372036854775807) :
    q < clamp n + 1 ∧ Text.int64.holds (clamp n + 1) = true := by
  constructor
  next =>
    have least : n ≤ clamp n := by
      rw [clamp_eq]
      omega
    have cast : (n : ℚ) ≤ clamp n := Int.cast_le.2 least
    linarith
  next =>
    rw [Text.int64_holds_iff, clamp_eq]
    omega

-- Whole numbers that are too small to be read are below one.
theorem int?_of_isPlain (there : row.value? column = some value) (stands : value.quantity? = some q)
    (plain : value.IsPlain) (below : q < 9223372036854775807) :
    (∃ n, row.int? column = some n ∧ q < n + 1 ∧ Text.int64.holds (n + 1) = true) ∨
      row.int? column = none ∧ q < 1 := by
  cases value with
  | null | bool | array | object => cases stands
  | int n =>
    cases stands
    have fits : n < 9223372036854775807 := by exact_mod_cast below
    exact .inl ⟨clamp n, by rw [int?, there], clamp_bounds (lt_add_one _) fits⟩
  | float x =>
    obtain ⟨n, whole, above, least⟩ := Double.lt_truncate? stands
    have fits : n < 9223372036854775807 := by
      rcases least with least | least
      next => exact_mod_cast least.trans_lt below
      next => omega
    exact .inl ⟨clamp n, by simp only [int?, there, whole, Option.map_some],
      clamp_bounds above fits⟩
  | text s =>
    obtain ⟨n, read, rfl⟩ := DecimalText.integer?_of_isPlain plain stands
    have fits : n < 9223372036854775807 := by exact_mod_cast below
    have taken : row.int? column = (some n).filter Text.int64.holds := by
      rw [int?, there, ← read]
      rfl
    by_cases held : Text.int64.holds n = true
    next =>
      refine .inl ⟨n, taken.trans (Option.filter_some_pos held), lt_add_one _, ?_⟩
      rw [Text.int64_holds_iff] at held ⊢
      omega
    next =>
      have outside := mt (Text.int64_holds_iff n).2 held
      have small : n < 1 := by omega
      exact .inr ⟨taken.trans (Option.filter_some_neg (Bool.not_eq_true _ ▸ held)),
        by exact_mod_cast small⟩

theorem int?_of_not_isPlain (there : row.value? column = some value) (marked : ¬value.IsPlain) :
    row.int? column = none := by
  cases value with
  | null | bool | int | float | array | object => exact absurd trivial marked
  | text s =>
    rw [int?, there]
    refine Option.eq_none_iff_forall_ne_some.2 fun n read => marked ?_
    exact DecimalText.isPlain_of_integer? (Option.filter_eq_some_iff.1 read).1

end Row

namespace Identity

theorem lt_startAfter_iff {rows : List Row} {row : Row} {maximum : Json} {q : ℚ}
    (first : rows.head? = some row) (there : row.value? "maxValue" = some maximum)
    (stands : maximum.quantity? = some q) (below : q < 9223372036854775807) :
    q < startAfter rows ↔ q < 1 ∨ maximum.IsPlain := by
  rw [startAfter, first, Option.bind_some]
  by_cases plain : maximum.IsPlain
  next =>
    rcases Row.int?_of_isPlain there stands plain below with ⟨n, read, above, fits⟩ | ⟨unread, small⟩
    next => simpa [read, plain, Text.wrapInt64_of_holds fits] using above
    next => simpa [unread, plain] using small
  next => simp [Row.int?_of_not_isPlain there plain, plain]

theorem not_restart_maximumText (table : ObjectName) (column : String) :
    Text.startsWith "ALTER SEQUENCE " (maximumText table column) = false :=
  startsWith_other (startsWith_maximumText table column) rfl rfl

def IsEnsuring (sql : String) : Prop :=
  Text.startsWith "ALTER SEQUENCE " sql = false ∧ Text.startsWith "SELECT MAX(" sql = false

def IsEnsuringStep : Step → Prop
  | .execute sql _ _ => IsEnsuring sql
  | _ => False

theorem asks_ensure (options : Options) (sequence : String) :
    (ensure options sequence).Asks IsEnsuringStep := by
  have count (n : ObjectName) : IsEnsuring (Catalog.countText n .sequence) :=
    ⟨startsWith_other (startsWith_countText n _) rfl rfl,
      startsWith_other (startsWith_count_countText n _) rfl rfl⟩
  have create : IsEnsuring (createText sequence) :=
    ⟨startsWith_other (startsWith_createText sequence) rfl rfl,
      startsWith_other (startsWith_createText sequence) rfl rfl⟩
  refine .bind (.has_of_execute (count _)) fun there => ?_
  cases there with
  | true => exact .pure ()
  | false => exact .bind (.perform create) fun _ => .pure ()

theorem apply_restart (sequence : String) (start : Int) :
    (SchemaChange.restartSequence sequence start).apply =
      Action.perform (restartText sequence start) :=
  SchemaChange.apply_eq_perform rfl

end Identity

open Session

/-- The sequence is restarted last, right after the maximum is read, or not at all. -/
inductive RestartsLast (options : Options) (entity column : String) :
    Except Failure Int → List Exchange → Prop where
  | restarted {rows replied : List Row} {before : List Exchange}
      (ensured : ∀ e ∈ before, Identity.IsEnsuring e.sql) :
      RestartsLast options entity column (.ok (Identity.startAfter rows))
        (before ++
          [⟨Identity.maximumText (.resolve entity options.schema) column, [], .ok rows⟩,
            ⟨Identity.restartText (Identity.sequence options entity column)
              (Identity.startAfter rows), [], .ok replied⟩])
  | refused {error : EngineError} {rows : List Row} {before : List Exchange}
      (ensured : ∀ e ∈ before, Identity.IsEnsuring e.sql) :
      RestartsLast options entity column (.error (.engine error))
        (before ++
          [⟨Identity.maximumText (.resolve entity options.schema) column, [], .ok rows⟩,
            ⟨Identity.restartText (Identity.sequence options entity column)
              (Identity.startAfter rows), [], .error error⟩])
  | unreached {failure : Failure} {log : List Exchange}
      (none : ∀ e ∈ log, Text.startsWith "ALTER SEQUENCE " e.sql = false) :
      RestartsLast options entity column (.error failure) log

namespace RestartsLast

variable {options : Options} {entity column : String} {out : Except Failure Int}
  {log : List Exchange}

theorem prepend {before : List Exchange} (ensured : ∀ e ∈ before, Identity.IsEnsuring e.sql)
    (h : RestartsLast options entity column out log) :
    RestartsLast options entity column out (before ++ log) := by
  cases h with
  | restarted ensured' =>
    rw [← List.append_assoc]
    exact .restarted (List.forall_mem_append.2 ⟨ensured, ensured'⟩)
  | refused ensured' =>
    rw [← List.append_assoc]
    exact .refused (List.forall_mem_append.2 ⟨ensured, ensured'⟩)
  | unreached none =>
    exact .unreached (List.forall_mem_append.2 ⟨fun e member => (ensured e member).1, none⟩)

theorem of_reset {σ : Type} (engine : Engine σ) (observers : List Observer) (options : Options)
    (entity column : String) (s : Session σ) :
    RestartsLast options entity column
      (perform engine observers (Identity.reset options entity column) s).1
      (exchanges engine observers (Identity.reset options entity column) s) := by
  have ensuring : ∀ e ∈ exchanges engine observers
      (Identity.ensure options (Identity.sequence options entity column)) s,
      Identity.IsEnsuring e.sql :=
    fun _ member =>
      sql_of_mem_exchanges (Identity.asks_ensure options _) (fun _ _ _ allowed => allowed) member
  rw [Identity.reset]
  rcases ensured : perform engine observers
    (Identity.ensure options (Identity.sequence options entity column)) s with ⟨failure | _, t⟩
  next =>
    rw [perform_bind_error ensured, exchanges_bind_error ensured]
    exact .unreached fun e member => (ensuring e member).1
  next =>
    rw [perform_bind_ok ensured, exchanges_bind_ok ensured]
    refine .prepend ensuring ?_
    obtain ⟨reply, u, read, asked⟩ := exists_reply engine observers
      (Identity.maximumText (.resolve entity options.schema) column) [] none t
    cases reply with
    | error error =>
      rw [perform_bind_error read, exchanges_bind_error read, asked]
      exact .unreached (List.forall_mem_singleton.2 (Identity.not_restart_maximumText _ _))
    | ok rows =>
      rw [perform_bind_ok read, exchanges_bind_ok read, asked, Identity.apply_restart,
        Action.perform, bind_assoc]
      obtain ⟨reply, v, altered, told⟩ := exists_reply engine observers
        (Identity.restartText (Identity.sequence options entity column)
          (Identity.startAfter rows)) [] none u
      cases reply with
      | error error =>
        rw [perform_bind_error altered, exchanges_bind_error altered, told]
        exact .refused (List.forall_mem_nil _)
      | ok replied =>
        rw [perform_bind_ok altered, exchanges_bind_ok altered, told]
        exact .restarted (List.forall_mem_nil _)

theorem start_of_replied {rows : List Row} (h : RestartsLast options entity column out log)
    (asked : ⟨Identity.maximumText (.resolve entity options.schema) column, [], .ok rows⟩ ∈ log) :
    (∃ failure, out = .error failure ∧
        ∀ e ∈ log, Text.startsWith "ALTER SEQUENCE " e.sql = true → e.succeeds = false) ∨
      ∃ before replied, out = .ok (Identity.startAfter rows) ∧
        log = before ++ [⟨Identity.restartText (Identity.sequence options entity column)
          (Identity.startAfter rows), [], .ok replied⟩] ∧
        ∀ e ∈ before, Text.startsWith "ALTER SEQUENCE " e.sql = false := by
  have query := Identity.not_restart_maximumText (.resolve entity options.schema) column
  cases h with
  | @restarted rows' replied before ensured =>
    have same : rows' = rows := by
      rcases List.mem_append.1 asked with early | late
      next =>
        exact absurd (Identity.startsWith_max_maximumText _ _)
          (Bool.eq_false_iff.1 (ensured _ early).2)
      next =>
        rcases List.mem_cons.1 late with now | restart
        next =>
          cases now
          rfl
        next =>
          have text := congrArg Exchange.sql (List.mem_singleton.1 restart)
          exact absurd text.symm (ne_of_startsWith (Identity.startsWith_restartText _ _) query)
    subst same
    refine .inr ⟨before ++
      [⟨Identity.maximumText (.resolve entity options.schema) column, [], .ok rows'⟩], replied, rfl,
      ?_, List.forall_mem_append.2 ⟨fun e member => (ensured e member).1, ?_⟩⟩
    next =>
      rw [List.append_assoc]
      rfl
    next => exact List.forall_mem_singleton.2 query
  | refused ensured =>
    refine .inl ⟨_, rfl, List.forall_mem_append.2 ⟨fun e member restart => ?_, ?_⟩⟩
    next => exact absurd restart (Bool.eq_false_iff.1 (ensured e member).1)
    next =>
      exact List.forall_mem_cons.2 ⟨fun restart => absurd restart (Bool.eq_false_iff.1 query),
        List.forall_mem_singleton.2 fun _ => rfl⟩
  | unreached none =>
    exact .inl ⟨_, rfl, fun e member restart => absurd restart (Bool.eq_false_iff.1 (none e member))⟩

end RestartsLast

/-- A restart fails, and no sequence is restarted, or it ends with the restart and gives its start.
This is above the maximum that the engine reports, unless the maximum is one or more and is text
with a point or an exponent. -/
theorem Identity.restarts_above_iff {σ : Type} (engine : Engine σ) (observers : List Observer)
    (options : Options) (entity column : String) (s : Session σ) (rows : List Row) (row : Row)
    (maximum : Json) (q : ℚ)
    (asked : ⟨maximumText (.resolve entity options.schema) column, [], .ok rows⟩ ∈
      exchanges engine observers (reset options entity column) s)
    (first : rows.head? = some row) (there : row.value? "maxValue" = some maximum)
    (stands : maximum.quantity? = some q) (below : q < 9223372036854775807) :
    (∃ failure, (perform engine observers (reset options entity column) s).1 = .error failure ∧
        ∀ e ∈ exchanges engine observers (reset options entity column) s,
          Text.startsWith "ALTER SEQUENCE " e.sql = true → e.succeeds = false) ∨
      ∃ before start replied,
        (perform engine observers (reset options entity column) s).1 = .ok start ∧
        exchanges engine observers (reset options entity column) s = before ++
          [⟨restartText (sequence options entity column) start, [], .ok replied⟩] ∧
        (∀ e ∈ before, Text.startsWith "ALTER SEQUENCE " e.sql = false) ∧
        (q < start ↔ q < 1 ∨ maximum.IsPlain) := by
  have last := RestartsLast.of_reset engine observers options entity column s
  rcases last.start_of_replied asked with failed | ⟨before, replied, result, log, none⟩
  next => exact .inl failed
  next =>
    exact .inr ⟨before, _, replied, result, log, none, lt_startAfter_iff first there stands below⟩

def reportingScript (maximum : String) : Script :=
  ⟨[.ok [[("count", .int 1)]], .ok [[("MAXVALUE", .text maximum)]], .ok []], fun _ => none⟩

theorem Identity.restarts_above_iff_padded :
    Json.quantity? (.text " +017\n") = some 17 ∧ Json.IsPlain (.text " +017\n") ∧
      ∃ before start replied,
        (perform Script.engine [] (reset .empty "Products" "id")
            (Session.start (reportingScript " +017\n"))).1 = .ok start ∧
          exchanges Script.engine [] (reset .empty "Products" "id")
              (Session.start (reportingScript " +017\n")) =
            before ++ [⟨restartText (sequence .empty "Products" "id") start, [], .ok replied⟩] ∧
          (17 : ℚ) < start := by
  have text : Text.trimChars Text.isBlank " +017\n".toList = ['+', '0', '1', '7'] := by
    decide +kernel
  have stands : Json.quantity? (.text " +017\n") = some 17 := by
    have read : DecimalText.ofChars? ['0', '1', '7'] = some ⟨['0', '1', '7'], [], 0⟩ := rfl
    have digits : Text.ofDigits ['0', '1', '7'] = 17 := rfl
    rw [Json.quantity?, text, DecimalText.quantity?, read]
    norm_num [DecimalText.decimal, Decimal.value, digits]
  have plain : Json.IsPlain (.text " +017\n") := by
    show DecimalText.IsPlain (Text.trimChars Text.isBlank " +017\n".toList)
    decide +kernel
  refine ⟨stands, plain, ?_⟩
  rcases Identity.restarts_above_iff Script.engine [] .empty "Products" "id"
    (Session.start (reportingScript " +017\n")) _ _ _ 17
    (List.mem_cons_of_mem _ List.mem_cons_self) rfl rfl stands (by norm_num) with
    ⟨failure, failed, -⟩ | ⟨before, start, replied, result, log, -, above⟩
  next => cases failed
  next => exact ⟨before, start, replied, result, log, above.2 (.inr plain)⟩

theorem Identity.restarts_below_exponent :
    ¬∀ (s : Session Script) (rows : List Row) (row : Row) (maximum : Json) (q : ℚ),
      ⟨maximumText (.resolve "Products" none) "id", [], .ok rows⟩ ∈
          exchanges Script.engine [] (reset .empty "Products" "id") s →
        rows.head? = some row → row.value? "maxValue" = some maximum →
          maximum.quantity? = some q → q < 9223372036854775807 →
            ∀ start, (perform Script.engine [] (reset .empty "Products" "id") s).1 = .ok start →
              q < start := by
  intro always
  have text : Text.trimChars Text.isBlank "1E2".toList = ['1', 'E', '2'] := by
    decide +kernel
  have stands : Json.quantity? (.text "1E2") = some 100 := by
    have read : DecimalText.ofChars? ['1', 'E', '2'] = some ⟨['1'], [], 2⟩ := rfl
    have digits : Text.ofDigits ['1'] = 1 := rfl
    rw [Json.quantity?, text]
    show (DecimalText.ofChars? ['1', 'E', '2']).map (fun t => t.decimal.value) = _
    rw [read]
    norm_num [DecimalText.decimal, Decimal.value, digits]
  have above := always (Session.start (reportingScript "1E2")) _ _ _ 100
    (List.mem_cons_of_mem _ List.mem_cons_self) rfl rfl stands (by norm_num) 1 rfl
  norm_num at above

end OracleSql
