import OracleSql.Double.Shortest
import OracleSql.Text.Number

set_option autoImplicit false

namespace OracleSql

structure DecimalText where
  whole : List Char
  fraction : List Char
  exponent : Int

def DecimalText.decimal (t : DecimalText) : Decimal :=
  ⟨Text.ofDigits (t.whole ++ t.fraction), t.exponent - t.fraction.length⟩

def DecimalText.mantissa? (cs : List Char) : Option (List Char × List Char × List Char) :=
  let whole := cs.takeWhile Char.isDigit
  let rest := cs.dropWhile Char.isDigit
  let (fraction, rest) :=
    match rest with
    | '.' :: rest => (rest.takeWhile Char.isDigit, rest.dropWhile Char.isDigit)
    | _ => ([], rest)
  if whole = [] ∧ fraction = [] then none else some (whole, fraction, rest)

def DecimalText.exponent? : List Char → Option Int
  | [] => some 0
  | e :: cs => if e = 'e' ∨ e = 'E' then Text.integer? cs else none

def DecimalText.ofChars? (cs : List Char) : Option DecimalText := do
  let (whole, fraction, rest) ← mantissa? cs
  let exponent ← exponent? rest
  pure ⟨whole, fraction, exponent⟩

namespace BinaryFormat

/-- The value of a format nearest to a decimal, infinite when it is too large. No format reaches
beyond `10 ^ 400` or below `10 ^ -400`, which bounds the powers that are computed. -/
def nearest (f : BinaryFormat) (negative : Bool) (d : Decimal) : Double :=
  if d.digits = 0 ∨ d.leading < -400 then Double.zero negative
  else if 400 < d.leading then .infinite negative
  else
    let code := f.encode (d.digits * Nat.pow 10 d.exponent.toNat) (Nat.pow 10 (-d.exponent).toNat)
    if f.limit ≤ code then .infinite negative
    else Double.ofRatio negative (f.magnitude code) (Nat.pow 2 f.unit)

end BinaryFormat

namespace Double

def special? (negative : Bool) (cs : List Char) : Option Double :=
  let word := cs.map Char.toLower
  if word = "inf".toList ∨ word = "infinity".toList then some (.infinite negative)
  else if word = "nan".toList then some .nan
  else none

def unsigned? (f : BinaryFormat) (negative : Bool) (cs : List Char) : Option Double :=
  (special? negative cs).orElse fun _ =>
    (DecimalText.ofChars? cs).map fun t => f.nearest negative t.decimal

def read? (f : BinaryFormat) : List Char → Option Double
  | '-' :: cs => unsigned? f true cs
  | '+' :: cs => unsigned? f false cs
  | cs => unsigned? f false cs

end Double

end OracleSql
