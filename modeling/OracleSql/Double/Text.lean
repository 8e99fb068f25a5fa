import OracleSql.Double.Shortest

set_option autoImplicit false

namespace OracleSql.Double

/-- How a number is written: a half between two candidates goes up or to the even one; whole
numbers may carry `.0`; exponents of the leading digit inside the window are positional. -/
structure Style where
  halfUp : Bool
  pointZero : Bool
  window : Option (Int × Int)

def Style.positional (style : Style) (leading : Int) : Bool :=
  match style.window with
  | none => true
  | some (low, high) => decide (low ≤ leading) && decide (leading < high)

def positionalText (pointZero : Bool) (d : Decimal) : String :=
  let text := Nat.toDigits 10 d.digits
  let tail := if pointZero then ".0" else ""
  if 0 ≤ d.exponent then
    String.ofList (text ++ List.replicate d.exponent.toNat '0') ++ tail
  else
    let places := (-d.exponent).toNat
    let padded := List.replicate (places + 1 - text.length) '0' ++ text
    let whole := padded.length - places
    String.ofList (padded.take whole) ++ "." ++ String.ofList (padded.drop whole)

def exponentText (d : Decimal) : String :=
  let exponent := d.leading
  let mantissa :=
    match Nat.toDigits 10 d.digits with
    | first :: [] => String.ofList [first]
    | first :: rest => String.ofList (first :: '.' :: rest)
    | [] => ""
  mantissa ++ (if exponent < 0 then "e-" else "e+") ++ toString exponent.natAbs

def finiteText (style : Style) (negative : Bool) (code : Nat) : String :=
  let d := if code = 0 then ⟨0, 0⟩ else shortest style.halfUp code
  let text :=
    if code = 0 || style.positional d.leading then positionalText style.pointZero d
    else exponentText d
  if negative then "-" ++ text else text

-- Numbers in SQL never have an exponent.
def plainStyle : Style := ⟨true, false, none⟩

def plainText : Double → String
  | .nan => "NaN"
  | .infinite negative => if negative then "-inf" else "inf"
  | .finite negative code => finiteText plainStyle negative code

-- Numbers in documents are positional from `1e-5` up to but not including `1e16`.
def documentStyle : Style := ⟨false, true, some (-5, 16)⟩

end OracleSql.Double
