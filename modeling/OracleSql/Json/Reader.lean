import OracleSql.Double.Reading
import OracleSql.Json.Basic

set_option autoImplicit false

namespace OracleSql.Json

def skipBlanks (cs : List Char) : List Char :=
  cs.dropWhile fun c => c = ' ' || c = '\n' || c = '\t' || c = '\r'

-- A number's digits make up a word of 64 bits; the digits beyond it only count.
def accumulate (significand : Nat) : List Char → Nat × List Char
  | [] => (significand, [])
  | c :: cs =>
      let next := 10 * significand + Text.digitValue c
      if Text.word64.holds next then accumulate next cs else (significand, c :: cs)

def powerOfTen (n : Nat) : Double :=
  Double.ofInt (Nat.pow 10 n)

/-- The significand times or over a power of ten, each rounded to a double. Powers beyond 308 are
applied in steps; none when the number is too large. -/
def scale (x : Double) (exponent : Int) : Nat → Option Double
  | 0 => none
  | fuel + 1 =>
      if exponent.natAbs ≤ 308 then
        if 0 ≤ exponent then
          let y := x.mul (powerOfTen exponent.natAbs)
          if y.isFinite then some y else none
        else some (x.div (powerOfTen exponent.natAbs))
      else if x.isZero then some x
      else if 0 ≤ exponent then none
      else scale (x.div (powerOfTen 308)) (exponent + 308) fuel

-- Dividing a double by `1e308` three times leaves zero, so four steps are enough.
def scaled? (negative : Bool) (significand : Nat) (exponent : Int) : Option Json :=
  (scale (Double.ofInt significand) exponent 4).map fun x =>
    .float (if negative then x.negate else x)

def integerOf (negative : Bool) (significand : Nat) : Json :=
  if negative then
    if significand ≠ 0 ∧ Text.int64.holds (-significand) then .int (-significand)
    else .float (Double.ofInt significand).negate
  else .int significand

def exponentPart? : List Char → Option (Option (Bool × List Char) × List Char)
  | c :: cs =>
      if c = 'e' ∨ c = 'E' then
        let (below, cs) :=
          match cs with
          | '-' :: cs => (true, cs)
          | '+' :: cs => (false, cs)
          | cs => (false, cs)
        let digits := cs.takeWhile Char.isDigit
        if digits = [] then none else some (some (below, digits), cs.dropWhile Char.isDigit)
      else some (none, c :: cs)
  | [] => some (none, [])

-- An exponent that 32 bits do not hold makes the number zero or too large.
def floatOf (negative : Bool) (significand : Nat) (start : Int) :
    Option (Bool × List Char) → Option Json
  | none => scaled? negative significand start
  | some (below, digits) =>
      let n := Text.ofDigits digits
      if Text.int32.holds n then
        scaled? negative significand (if below then start - n else start + n)
      else if significand ≠ 0 ∧ ¬below then none
      else some (.float (Double.zero negative))

def wholeDigits? : List Char → Option (List Char × List Char)
  | '0' :: cs => if (cs.head?.map Char.isDigit).getD false then none else some (['0'], cs)
  | cs =>
      let digits := cs.takeWhile Char.isDigit
      if digits = [] then none else some (digits, cs.dropWhile Char.isDigit)

def fractionPart? : List Char → Option (Option (List Char) × List Char)
  | '.' :: cs =>
      let digits := cs.takeWhile Char.isDigit
      if digits = [] then none else some (some digits, cs.dropWhile Char.isDigit)
  | cs => some (none, cs)

def number? (negative : Bool) (cs : List Char) : Option (Json × List Char) := do
  let (whole, cs) ← wholeDigits? cs
  let (fraction, cs) ← fractionPart? cs
  let (exponent, cs) ← exponentPart? cs
  let (significand, dropped) := accumulate 0 whole
  match fraction, exponent, dropped with
  | none, none, [] => pure (integerOf negative significand, cs)
  | _, _, _ =>
      let digits := fraction.getD []
      let (significand, ignored) := accumulate significand digits
      let start : Int := dropped.length - (digits.length - ignored.length : Nat)
      let value ← floatOf negative significand start exponent
      pure (value, cs)

def hexValue? (c : Char) : Option Nat :=
  if c.isDigit then some (c.toNat - '0'.toNat)
  else if 'a' ≤ c ∧ c ≤ 'f' then some (c.toNat - 'a'.toNat + 10)
  else if 'A' ≤ c ∧ c ≤ 'F' then some (c.toNat - 'A'.toNat + 10)
  else none

def unit? : List Char → Option (Nat × List Char)
  | a :: b :: c :: d :: cs => do
      let a ← hexValue? a
      let b ← hexValue? b
      let c ← hexValue? c
      let d ← hexValue? d
      pure (((a * 16 + b) * 16 + c) * 16 + d, cs)
  | _ => none

-- A code unit, or two that make a pair; a half of a pair alone is refused.
def codePoint? (cs : List Char) : Option (Char × List Char) := do
  let (high, cs) ← unit? cs
  if 0xD800 ≤ high ∧ high < 0xDC00 then
    match cs with
    | '\\' :: 'u' :: cs =>
        let (low, cs) ← unit? cs
        if 0xDC00 ≤ low ∧ low < 0xE000 then
          pure (Char.ofNat (0x10000 + (high - 0xD800) * 0x400 + (low - 0xDC00)), cs)
        else none
    | _ => none
  else if 0xDC00 ≤ high ∧ high < 0xE000 then none
  else pure (Char.ofNat high, cs)

def escape? : List Char → Option (Char × List Char)
  | '"' :: cs => some ('"', cs)
  | '\\' :: cs => some ('\\', cs)
  | '/' :: cs => some ('/', cs)
  | 'b' :: cs => some ('\x08', cs)
  | 'f' :: cs => some ('\x0c', cs)
  | 'n' :: cs => some ('\n', cs)
  | 'r' :: cs => some ('\r', cs)
  | 't' :: cs => some ('\t', cs)
  | 'u' :: cs => codePoint? cs
  | _ => none

def stringTail? : Nat → List Char → Option (List Char × List Char)
  | _ + 1, '"' :: cs => some ([], cs)
  | fuel + 1, '\\' :: cs => do
      let (c, cs) ← escape? cs
      let (chars, cs) ← stringTail? fuel cs
      pure (c :: chars, cs)
  | fuel + 1, c :: cs =>
      if c.toNat < 0x20 then none
      else do
        let (chars, cs) ← stringTail? fuel cs
        pure (c :: chars, cs)
  | _, _ => none

def string? (cs : List Char) : Option (String × List Char) :=
  (stringTail? (cs.length + 1) cs).map fun (chars, rest) => (String.ofList chars, rest)

def word? (word : String) (value : Json) (cs : List Char) : Option (Json × List Char) :=
  if word.toList.isPrefixOf cs then some (value, cs.drop word.length) else none

def maxDepth : Nat := 127

mutual

/-- Every step consumes a character, so that the length of the text is fuel enough. -/
def value? : Nat → Nat → List Char → Option (Json × List Char)
  | 0, _, _ => none
  | fuel + 1, depth, cs =>
      match skipBlanks cs with
      | '"' :: cs => (string? cs).map fun (s, rest) => (.text s, rest)
      | '-' :: cs => number? true cs
      | 'n' :: cs => word? "ull" .null cs
      | 't' :: cs => word? "rue" (.bool true) cs
      | 'f' :: cs => word? "alse" (.bool false) cs
      | '[' :: cs =>
          match depth, skipBlanks cs with
          | 0, _ => none
          | _ + 1, ']' :: cs => some (.array [], cs)
          | depth + 1, cs => (items? fuel depth cs).map fun (items, rest) => (.array items, rest)
      | '{' :: cs =>
          match depth, skipBlanks cs with
          | 0, _ => none
          | _ + 1, '}' :: cs => some (.object [], cs)
          | depth + 1, cs =>
              (members? fuel depth cs).map fun (members, rest) => (.ofEntries members, rest)
      | cs => number? false cs

def items? : Nat → Nat → List Char → Option (List Json × List Char)
  | 0, _, _ => none
  | fuel + 1, depth, cs => do
      let (item, cs) ← value? fuel depth cs
      match skipBlanks cs with
      | ',' :: cs =>
          let (rest, cs) ← items? fuel depth cs
          pure (item :: rest, cs)
      | ']' :: cs => pure ([item], cs)
      | _ => none

def members? : Nat → Nat → List Char → Option (List (String × Json) × List Char)
  | 0, _, _ => none
  | fuel + 1, depth, cs =>
      match skipBlanks cs with
      | '"' :: cs => do
          let (key, cs) ← string? cs
          match skipBlanks cs with
          | ':' :: cs =>
              let (value, cs) ← value? fuel depth cs
              match skipBlanks cs with
              | ',' :: cs =>
                  let (rest, cs) ← members? fuel depth cs
                  pure ((key, value) :: rest, cs)
              | '}' :: cs => pure ([(key, value)], cs)
              | _ => none
          | _ => none
      | _ => none

end

def read? (source : String) : Option Json :=
  let cs := source.toList
  match value? (2 * cs.length + 2) maxDepth cs with
  | some (doc, rest) => if skipBlanks rest = [] then some doc else none
  | none => none

def sourceKeys (source : String) : List String :=
  let cs := source.toList
  match skipBlanks cs with
  | '{' :: rest =>
      match members? (2 * cs.length + 2) (maxDepth - 1) rest with
      | some (members, _) => members.map Prod.fst
      | none => []
  | _ => []

end OracleSql.Json
