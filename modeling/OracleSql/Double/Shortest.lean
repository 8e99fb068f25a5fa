import OracleSql.Double.Basic

set_option autoImplicit false

namespace OracleSql

structure Decimal where
  digits : Nat
  exponent : Int
  deriving DecidableEq

def digitCount (n : Nat) : Nat :=
  (Nat.toDigits 10 n).length

def Decimal.dropZerosAux : Nat → Decimal → Decimal
  | 0, d => d
  | fuel + 1, d =>
      if d.digits ≠ 0 ∧ d.digits % 10 = 0 then dropZerosAux fuel ⟨d.digits / 10, d.exponent + 1⟩
      else d

def Decimal.dropZeros (d : Decimal) : Decimal :=
  dropZerosAux (digitCount d.digits) d

def Decimal.leading (d : Decimal) : Int :=
  d.exponent + digitCount d.digits - 1

namespace Double

-- A finite value is the middle of the reals that are rounded to it. All bounds are counted in half
-- units, so that the middle between two neighbours is whole.
structure Interval where
  low : Nat
  value : Nat
  high : Nat
  closed : Bool

def interval (code : Nat) : Interval where
  low := binary64.magnitude (code - 1) + binary64.magnitude code
  value := 2 * binary64.magnitude code
  high := binary64.magnitude code + binary64.magnitude (code + 1)
  closed := code % 2 == 0

def leadingExponent (num den : Nat) : Int :=
  if den ≤ num then digitCount (num / den) - 1 else -(digitCount (den / num) : Int)

def Interval.gridPoint? (v : Interval) (halfUp : Bool) (exponent : Int) : Option Decimal :=
  let up := Nat.pow 10 (-exponent).toNat
  let den := Nat.pow 2 (binary64.unit + 1) * Nat.pow 10 exponent.toNat
  let below := v.value * up / den
  let rest := v.value * up % den
  let inside (d : Nat) : Bool :=
    if v.closed then decide (v.low * up ≤ d * den) && decide (d * den ≤ v.high * up)
    else decide (v.low * up < d * den) && decide (d * den < v.high * up)
  let upper :=
    decide (den < 2 * rest) || (2 * rest == den && (halfUp || below % 2 == 1))
  match inside below, inside (below + 1) with
  | true, true => some ⟨if upper then below + 1 else below, exponent⟩
  | true, false => some ⟨below, exponent⟩
  | false, true => some ⟨below + 1, exponent⟩
  | false, false => none

/-- The fewest digits that are read back as the value, nearest to it among those. -/
def shortest (halfUp : Bool) (code : Nat) : Decimal :=
  let v := interval code
  let lead := leadingExponent v.value (Nat.pow 2 (binary64.unit + 1))
  let found := (List.range 17).findSome? fun n : Nat => v.gridPoint? halfUp (lead - n)
  (found.getD ⟨0, 0⟩).dropZeros

end Double

end OracleSql
