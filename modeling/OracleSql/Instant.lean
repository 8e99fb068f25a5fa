set_option autoImplicit false

namespace OracleSql

structure Date where
  year : Int
  month : Nat
  day : Nat
  deriving DecidableEq

namespace Date

-- Years are counted from March, which puts the leap day at the end, in cycles of 400 years.
def yearOfCycle (day : Nat) : Nat :=
  (day - day / 1460 + day / 36524 - day / 146096) / 365

def firstOfYear (year : Nat) : Nat :=
  365 * year + year / 4 - year / 100

def ofDays (days : Int) : Date :=
  let cycle := (days + 719468) / 146097
  let day := ((days + 719468) % 146097).toNat
  let year := yearOfCycle day
  let inYear := day - firstOfYear year
  let shifted := (5 * inYear + 2) / 153
  let month := if shifted < 10 then shifted + 3 else shifted - 9
  ⟨year + cycle * 400 + (if month ≤ 2 then 1 else 0), month,
    inYear - (153 * shifted + 2) / 5 + 1⟩

end Date

/-- Seconds since 1970 and nanoseconds within the second. A leap second repeats the second before
it with nanoseconds from 10⁹ on. -/
structure Instant where
  seconds : Int
  nanos : Nat
  deriving DecidableEq

structure LocalTime where
  date : Date
  hour : Nat
  minute : Nat
  second : Nat
  nanos : Nat

def Instant.atOffset (t : Instant) (offset : Int) : LocalTime :=
  let seconds := t.seconds + offset
  let time := (seconds % 86400).toNat
  ⟨Date.ofDays (seconds / 86400), time / 3600, time / 60 % 60, time % 60, t.nanos⟩

-- At least `width` digits; a minus sign counts as one of them.
def padded (width : Nat) (n : Int) : String :=
  let digits := Nat.toDigits 10 n.natAbs
  let sign := if n < 0 then ['-'] else []
  String.ofList (sign ++ List.replicate (width - sign.length - digits.length) '0' ++ digits)

def yearText (year : Int) : String :=
  if year < 0 then "-" ++ padded 4 (-year)
  else if 9999 < year then "+" ++ padded 4 year
  else padded 4 year

def Instant.isoText (t : Instant) : String :=
  let l := t.atOffset 0
  let second := l.second + l.nanos / 1000000000
  yearText l.date.year ++ "-" ++ padded 2 l.date.month ++ "-" ++ padded 2 l.date.day ++ "T" ++
    padded 2 l.hour ++ ":" ++ padded 2 l.minute ++ ":" ++ padded 2 second ++ "." ++
    padded 3 (l.nanos % 1000000000 / 1000000) ++ "Z"

end OracleSql
