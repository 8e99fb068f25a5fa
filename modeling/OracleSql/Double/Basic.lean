set_option autoImplicit false

namespace OracleSql

-- The nearest whole number to `num / den`; a half goes to the even neighbour.
def roundHalfEven (num den : Nat) : Nat :=
  let q := num / den
  let r := num % den
  if 2 * r < den then q
  else if den < 2 * r then q + 1
  else q + q % 2

/-- Values are counted in units of `2 ^ -unit`, the smallest positive one. -/
structure BinaryFormat where
  digits : Nat
  unit : Nat
  exponents : Nat

def binary64 : BinaryFormat := ⟨53, 1074, 2047⟩
def binary32 : BinaryFormat := ⟨24, 149, 255⟩

/-- Codes number the values of a format upwards from zero; those below `limit` are finite. -/
def BinaryFormat.limit (f : BinaryFormat) : Nat :=
  f.exponents * Nat.pow 2 (f.digits - 1)

def BinaryFormat.magnitude (f : BinaryFormat) (code : Nat) : Nat :=
  let hidden := Nat.pow 2 (f.digits - 1)
  if code / hidden = 0 then code
  else (hidden + code % hidden) * Nat.pow 2 (code / hidden - 1)

def BinaryFormat.encode (f : BinaryFormat) (num den : Nat) : Nat :=
  let scaled := num * Nat.pow 2 f.unit
  let shift := Nat.log2 (scaled / den) - (f.digits - 1)
  shift * Nat.pow 2 (f.digits - 1) + roundHalfEven scaled (den * Nat.pow 2 shift)

inductive Double where
  | nan
  | infinite (negative : Bool)
  | finite (negative : Bool) (code : Fin binary64.limit)
  deriving DecidableEq

namespace Double

def ofRatio (negative : Bool) (num den : Nat) : Double :=
  let code := binary64.encode num den
  if h : code < binary64.limit then .finite negative ⟨code, h⟩ else .infinite negative

def ofInt (n : Int) : Double :=
  ofRatio (decide (n < 0)) n.natAbs 1

def zero (negative : Bool) : Double :=
  .finite negative ⟨0, by decide⟩

instance : Inhabited Double := ⟨zero false⟩

def isFinite : Double → Bool
  | .finite _ _ => true
  | _ => false

def isZero : Double → Bool
  | .finite _ code => code.val == 0
  | _ => false

def negate : Double → Double
  | .nan => .nan
  | .infinite s => .infinite (!s)
  | .finite s code => .finite (!s) code

def mul : Double → Double → Double
  | .nan, _ | _, .nan => .nan
  | .infinite s, y => if y.isZero then .nan else .infinite (s != sign y)
  | x, .infinite t => if x.isZero then .nan else .infinite (sign x != t)
  | .finite s a, .finite t b =>
      ofRatio (s != t) (binary64.magnitude a * binary64.magnitude b)
        (Nat.pow 2 (2 * binary64.unit))
where
  sign : Double → Bool
    | .nan => false
    | .infinite s | .finite s _ => s

-- A quotient by zero counts as not a number.
def div : Double → Double → Double
  | .finite s a, .finite t b =>
      if b.val = 0 then .nan
      else ofRatio (s != t) (binary64.magnitude a) (binary64.magnitude b)
  | _, _ => .nan

def truncate? : Double → Option Int
  | .finite s code =>
      let whole : Int := (binary64.magnitude code / Nat.pow 2 binary64.unit : Nat)
      some (if s then -whole else whole)
  | _ => none

end Double

end OracleSql
