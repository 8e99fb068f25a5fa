import OracleSql.Proofs.Literal.Alike
import OracleSql.Proofs.Literal.Calendar
import OracleSql.Proofs.Sql.Part
import OracleSql.Text.Number

set_option autoImplicit false

namespace OracleSql

open Sql

inductive FormatField where
  | year | month | day | hour | minute | second | millis | zoneHour | zoneMinute
  deriving DecidableEq

def FormatField.width : FormatField → Nat
  | .year => 4
  | .millis => 3
  | .month | .day | .hour | .minute | .second | .zoneHour | .zoneMinute => 2

inductive FormatElement where
  | field (f : FormatField)
  | zoneSign
  | mark (c : Char)
  deriving DecidableEq

namespace FormatElement

def ofModel : List Char → List FormatElement
  | 'Y' :: 'Y' :: 'Y' :: 'Y' :: cs => .field .year :: ofModel cs
  | 'M' :: 'M' :: cs => .field .month :: ofModel cs
  | 'D' :: 'D' :: cs => .field .day :: ofModel cs
  | 'H' :: 'H' :: '2' :: '4' :: cs => .field .hour :: ofModel cs
  | 'M' :: 'I' :: cs => .field .minute :: ofModel cs
  | 'S' :: 'S' :: cs => .field .second :: ofModel cs
  | 'F' :: 'F' :: '3' :: cs => .field .millis :: ofModel cs
  | 'T' :: 'Z' :: 'H' :: cs => .zoneSign :: .field .zoneHour :: ofModel cs
  | 'T' :: 'Z' :: 'M' :: cs => .field .zoneMinute :: ofModel cs
  | c :: cs => .mark c :: ofModel cs
  | [] => []

def width : FormatElement → Nat
  | .field f => f.width
  | .zoneSign | .mark _ => 1

end FormatElement

structure Stamp where
  year : Nat
  month : Nat
  day : Nat
  hour : Nat
  minute : Nat
  second : Nat
  millis : Nat
  west : Bool
  zoneHour : Nat
  zoneMinute : Nat
  deriving DecidableEq

namespace Stamp

def blank : Stamp :=
  ⟨0, 0, 0, 0, 0, 0, 0, false, 0, 0⟩

def withNumber (s : Stamp) (n : Nat) : FormatField → Stamp
  | .year => { s with year := n }
  | .month => { s with month := n }
  | .day => { s with day := n }
  | .hour => { s with hour := n }
  | .minute => { s with minute := n }
  | .second => { s with second := n }
  | .millis => { s with millis := n }
  | .zoneHour => { s with zoneHour := n }
  | .zoneMinute => { s with zoneMinute := n }

def withPart? (s : Stamp) (part : List Char) : FormatElement → Option Stamp
  | .mark c => if part = [c] then some s else none
  | .zoneSign =>
      if part = ['+'] then some { s with west := false }
      else if part = ['-'] then some { s with west := true }
      else none
  | .field f => (Text.digits? part).map fun n => s.withNumber n f

-- Each element takes as many characters as it is wide, and none are left.
def readFrom? (s : Stamp) : List FormatElement → List Char → Option Stamp
  | [], cs => if cs.isEmpty then some s else none
  | e :: es, cs =>
      if cs.length < e.width then none
      else (s.withPart? (cs.take e.width) e).bind fun t => t.readFrom? es (cs.drop e.width)

def read? (es : List FormatElement) (cs : List Char) : Option Stamp :=
  blank.readFrom? es cs

def date (s : Stamp) : Date :=
  ⟨s.year, s.month, s.day⟩

def offset (s : Stamp) : Int :=
  let seconds : Int := ((s.zoneHour * 60 + s.zoneMinute) * 60 : Nat)
  if s.west then -seconds else seconds

/-- None for a day that the calendar does not have, or a time that no clock shows. -/
def instant? (s : Stamp) : Option Instant :=
  if s.date.IsProper ∧ s.hour < 24 ∧ s.minute < 60 ∧ s.second < 60 ∧ s.zoneHour < 24 ∧
      s.zoneMinute < 60 then
    some ⟨s.date.number * 86400 + ((s.hour * 60 + s.minute) * 60 + s.second : Nat) - s.offset,
      s.millis * 1000000⟩
  else none

def number (s : Stamp) : FormatField → Nat
  | .year => s.year
  | .month => s.month
  | .day => s.day
  | .hour => s.hour
  | .minute => s.minute
  | .second => s.second
  | .millis => s.millis
  | .zoneHour => s.zoneHour
  | .zoneMinute => s.zoneMinute

def part (s : Stamp) : FormatElement → List Char
  | .mark c => [c]
  | .zoneSign => [if s.west then '-' else '+']
  | .field f => (padded f.width (s.number f)).toList

def Fits (s : Stamp) : Prop :=
  ∀ f, s.number f < 10 ^ f.width

end Stamp

theorem length_padded {width n : Nat} (some : 0 < width) (h : n < 10 ^ width) :
    (padded width n).toList.length = width := by
  have digits := (Nat.length_toDigits_le_iff (b := 10) (by decide) some).2 h
  have natural : ¬(n : Int) < 0 := by omega
  simp only [padded, natural, if_false, Int.natAbs_natCast, String.toList_ofList,
    List.length_append, List.length_replicate, List.length_nil]
  omega

theorem digits?_padded (width n : Nat) : Text.digits? (padded width n).toList = some n := by
  have natural : ¬(n : Int) < 0 := by omega
  have parts : (padded width n).toList =
      List.replicate (width - (Nat.toDigits 10 n).length) '0' ++ Nat.toDigits 10 n := by
    simp [padded, natural]
  have digits : (padded width n).toList.all Char.isDigit = true := by
    simp only [parts, List.all_append, List.all_replicate, Bool.and_eq_true, List.all_eq_true]
    exact ⟨by simp, fun _ member => Nat.isDigit_of_mem_toDigits (by omega) (by omega) member⟩
  have value : Text.ofDigits (padded width n).toList = n := by
    show Nat.ofDigitChars 10 (padded width n).toList 0 = n
    rw [parts, Nat.ofDigitChars_append, Nat.ofDigitChars_replicate_zero, Nat.mul_zero,
      Nat.ofDigitChars_toDigits (by omega) (by omega)]
  rw [Text.digits?, if_pos ⟨by simp [parts], digits⟩, value]

namespace Stamp

variable {s t : Stamp} {es : List FormatElement} {cs : List Char}

def copied (s t : Stamp) : FormatElement → Stamp
  | .field f => t.withNumber (s.number f) f
  | .zoneSign => { t with west := s.west }
  | .mark _ => t

theorem length_part (fits : s.Fits) (e : FormatElement) : (s.part e).length = e.width := by
  cases e with
  | field f => exact length_padded (by cases f <;> decide) (fits f)
  | zoneSign | mark => rfl

theorem withPart?_part (s t : Stamp) (e : FormatElement) :
    t.withPart? (s.part e) e = some (s.copied t e) := by
  cases e with
  | field f => rw [part, withPart?, digits?_padded, Option.map_some, copied]
  | zoneSign => cases h : s.west <;> simp [part, withPart?, copied, h]
  | mark c => exact if_pos rfl

theorem readFrom?_parts (fits : s.Fits) (es : List FormatElement) (t : Stamp) :
    t.readFrom? es (es.flatMap s.part) = some (es.foldl s.copied t) := by
  induction es generalizing t with
  | nil => rfl
  | cons e es ih =>
    have width := length_part fits e
    rw [List.flatMap_cons, readFrom?, List.length_append, if_neg (by omega), ← width,
      List.take_left, List.drop_left, withPart?_part, Option.bind_some, ih]
    rfl

end Stamp

def timestampParts? (sql : String) : Option (List Char × List Char) := do
  match ← after? "TO_TIMESTAMP_TZ(" (← scan sql.toList) with
  | .quoted .literal text :: ts =>
      match ← after? ", " ts with
      | [.quoted .literal model, .plain ')'] => some (text, model)
      | _ => none
  | _ => none

def timestampModel : String :=
  "YYYY-MM-DD HH24:MI:SS.FF3TZH:TZM"

def timestampElements : List FormatElement :=
  [.field .year, .mark '-', .field .month, .mark '-', .field .day, .mark ' ', .field .hour,
    .mark ':', .field .minute, .mark ':', .field .second, .mark '.', .field .millis, .zoneSign,
    .field .zoneHour, .mark ':', .field .zoneMinute]

/-- The literal is read component by component, each of them at its width. -/
def DenotesInstant (sql : String) (t : Instant) : Prop :=
  ∃ text model stamp, timestampParts? sql = some (text, model) ∧
    FormatElement.ofModel model = timestampElements ∧
    Stamp.read? timestampElements text = some stamp ∧
    text = timestampElements.flatMap stamp.part ∧
    (∀ e ∈ timestampElements, (stamp.part e).length = e.width) ∧
    stamp.instant? = some t

theorem ofModel_timestampModel :
    FormatElement.ofModel timestampModel.toList = timestampElements := by
  decide +kernel

theorem foldl_copied_timestampElements (s t : Stamp) :
    timestampElements.foldl s.copied t = s := by
  cases s
  rfl

namespace Literal

theorem written_enclosed {s : String} (h : Bare s) :
    Written ("'" ++ s ++ "'").toList [.quoted .literal s.toList] := by
  have single : ∀ c ∈ s.toList, (if c = Quoted.literal.mark then
      [Quoted.literal.mark, Quoted.literal.mark] else [c]) = [c] := by
    intro c member
    have other : c ≠ '\'' := by
      rintro rfl
      exact absurd (h _ member) (by decide)
    exact if_neg other
  have same : doubled .literal s.toList = s.toList := by
    rw [doubled, List.flatMap_congr single, List.flatMap_singleton']
  have read := scan_quoted .literal s.toList
  rw [same] at read
  simpa [Quoted.mark] using scan_eq_some_iff.1 read

theorem timestampParts?_ofInstant (t : Instant) (offset : Int) :
    timestampParts? (ofInstant t offset) =
      some ((timestampText t offset).toList, timestampModel.toList) := by
  have text := written_enclosed (bare_timestampText t offset)
  have model := written_enclosed (by decide : Bare timestampModel)
  have all := ((text.between model ", " (by decide) (by decide)).before ")" (by decide)).after
    "TO_TIMESTAMP_TZ(" (by decide)
  have last : ", 'YYYY-MM-DD HH24:MI:SS.FF3TZH:TZM')" =
      ", " ++ ("'" ++ timestampModel ++ "'") ++ ")" := by
    decide +kernel
  have whole : ofInstant t offset = "TO_TIMESTAMP_TZ(" ++
      ("'" ++ timestampText t offset ++ "'" ++ ", " ++ ("'" ++ timestampModel ++ "'") ++ ")") := by
    rw [ofInstant_eq, last]
    simp only [String.append_assoc]
  rw [timestampParts?, whole, scan_eq_some_iff.2 all]
  simp only [Option.bind_eq_bind, Option.bind_some, List.append_assoc, List.singleton_append,
    after?_plains]
  rfl

end Literal

namespace Instant

variable {t : Instant} {offset : Int}

def stamp (t : Instant) (offset : Int) : Stamp :=
  let l := t.atOffset offset
  ⟨l.date.year.toNat, l.date.month, l.date.day, l.hour, l.minute, l.second, t.nanos / 1000000,
    decide (offset < 0), offset.natAbs / 60 / 60, offset.natAbs / 60 % 60⟩

theorem time_lt (t : Instant) (offset : Int) : (t.atOffset offset).hour < 24 ∧
    (t.atOffset offset).minute < 60 ∧ (t.atOffset offset).second < 60 := by
  simp only [atOffset]
  omega

theorem fits_stamp (noLeap : t.nanos < 1000000000) (zone : -86400 < offset ∧ offset < 86400)
    (year : (t.atOffset offset).date.year ≤ 9999) : (t.stamp offset).Fits := by
  obtain ⟨⟨-, december⟩, -, ends⟩ := Date.isProper_ofDays ((t.seconds + offset) / 86400)
  obtain ⟨hour, minute, second⟩ := t.time_lt offset
  have length (year : Int) (month : Nat) : Date.monthLength year month ≤ 31 := by
    have leap := Date.leapDays_le year
    unfold Date.monthLength
    split <;> omega
  intro f
  cases f with
  | month => exact Nat.lt_of_le_of_lt december (by decide)
  | day => exact Nat.lt_of_le_of_lt (ends.trans (length _ _)) (by decide)
  | _ =>
    simp only [stamp, Stamp.number, FormatField.width]
    omega

theorem timestampText_eq (noLeap : t.nanos < 1000000000)
    (year : 0 ≤ (t.atOffset offset).date.year) :
    (Literal.timestampText t offset).toList = timestampElements.flatMap (t.stamp offset).part := by
  have millis : min ((t.atOffset offset).nanos / 1000000) 999 = t.nanos / 1000000 := by
    simp only [atOffset]
    omega
  have sign : (if offset < 0 then "-" else "+").toList =
      [if (t.stamp offset).west then '-' else '+'] := by
    by_cases h : offset < 0 <;> simp [stamp, h]
  have natural : ((t.atOffset offset).date.year.toNat : Int) = (t.atOffset offset).date.year :=
    Int.toNat_of_nonneg year
  unfold Literal.timestampText
  simp only [String.toList_append, millis, sign]
  simp [timestampElements, Stamp.part, FormatField.width, Stamp.number, stamp, natural]

theorem instant?_stamp (minutes : 60 ∣ offset) (zone : -86400 < offset ∧ offset < 86400)
    (year : 0 ≤ (t.atOffset offset).date.year) :
    (t.stamp offset).instant? = some ⟨t.seconds, t.nanos / 1000000 * 1000000⟩ := by
  obtain ⟨hour, minute, second⟩ := t.time_lt offset
  have date : (t.stamp offset).date = Date.ofDays ((t.seconds + offset) / 86400) := by
    simp only [stamp, Stamp.date, Int.toNat_of_nonneg year]
    rfl
  have east : (t.stamp offset).offset = offset := by
    simp only [stamp, Stamp.offset, decide_eq_true_eq]
    split <;> omega
  have whole : ((t.stamp offset).hour * 60 + (t.stamp offset).minute) * 60 +
      (t.stamp offset).second = ((t.seconds + offset) % 86400).toNat := by
    simp only [stamp, atOffset]
    omega
  have zoneHour : (t.stamp offset).zoneHour < 24 := by
    simp only [stamp]
    omega
  have zoneMinute : (t.stamp offset).zoneMinute < 60 := Nat.mod_lt _ (by decide)
  have proper : (t.stamp offset).date.IsProper := date ▸ Date.isProper_ofDays _
  rw [Stamp.instant?, if_pos ⟨proper, hour, minute, second, zoneHour, zoneMinute⟩, date,
    Date.number_ofDays, east, whole]
  simp only [stamp, Option.some.injEq, mk.injEq, and_true]
  omega

end Instant

/-- A literal denotes its instant, rounded down to the millisecond. -/
theorem Literal.denotesInstant_ofInstant {t : Instant} {offset : Int}
    (noLeap : t.nanos < 1000000000) (minutes : 60 ∣ offset)
    (zone : -86400 < offset ∧ offset < 86400)
    (year : 0 ≤ (t.atOffset offset).date.year ∧ (t.atOffset offset).date.year ≤ 9999) :
    DenotesInstant (ofInstant t offset) ⟨t.seconds, t.nanos / 1000000 * 1000000⟩ := by
  have fits := Instant.fits_stamp noLeap zone year.2
  have text := Instant.timestampText_eq noLeap year.1
  refine ⟨_, _, t.stamp offset, timestampParts?_ofInstant t offset, ofModel_timestampModel, ?_,
    text, fun e _ => Stamp.length_part fits e, Instant.instant?_stamp minutes zone year.1⟩
  rw [text, Stamp.read?, Stamp.readFrom?_parts fits, foldl_copied_timestampElements]

theorem Literal.denotesInstant_leap_day :
    ofInstant ⟨-57973800, 999999999⟩ (-1800) =
        "TO_TIMESTAMP_TZ('1968-02-29 23:40:00.999-00:30', " ++
          "'YYYY-MM-DD HH24:MI:SS.FF3TZH:TZM')" ∧
      DenotesInstant (ofInstant ⟨-57973800, 999999999⟩ (-1800)) ⟨-57973800, 999000000⟩ :=
  ⟨by decide +kernel,
    denotesInstant_ofInstant (t := ⟨-57973800, 999999999⟩) (by decide) (by decide) (by decide)
      (by decide +kernel)⟩

end OracleSql
