import ChangeSieve.Number.Shortest

/-! The two written forms of doubles: number texts with an exponent, and plain decimals. -/
namespace ChangeSieve

namespace Decimal

/-- Digits before and after the point in positional writing; either side has at least a zero or nothing. -/
def positional (d : Decimal) : List Char × List Char :=
  let ds := Nat.toDigits 10 d.digits
  if 0 ≤ d.exponent then (ds ++ List.replicate d.exponent.toNat '0', [])
  else
    let places := (-d.exponent).toNat
    if places < ds.length then (ds.take (ds.length - places), ds.drop (ds.length - places))
    else (['0'], List.replicate (places - ds.length) '0' ++ ds)

def magnitude (d : Decimal) : Int := (Nat.toDigits 10 d.digits).length - 1 + d.exponent

def signText (d : Decimal) : List Char := if d.negative then ['-'] else []

/-- One digit, the others after a point if there are any, and a signed exponent. -/
def scientific (d : Decimal) : List Char :=
  let ds := Nat.toDigits 10 d.digits
  let rest := ds.drop 1
  ds.take 1 ++ (if rest = [] then [] else '.' :: rest) ++ 'e' :: (if d.magnitude < 0 then '-' else '+') ::
    Nat.toDigits 10 d.magnitude.natAbs

/-- Positional from `10 ^ -5` to below `10 ^ 16` with at least one digit after the point, scientific elsewhere. -/
def numberText (d : Decimal) : List Char :=
  d.signText ++
    if d.digits = 0 ∨ -5 ≤ d.magnitude ∧ d.magnitude < 16 then
      let (whole, fraction) := d.positional
      whole ++ '.' :: (if fraction = [] then ['0'] else fraction)
    else d.scientific

/-- Positional at every size, with a point only where digits follow it. -/
def plainText (d : Decimal) : List Char :=
  let (whole, fraction) := d.positional
  d.signText ++ whole ++ if fraction = [] then [] else '.' :: fraction

end Decimal

/-- The number text: shortest digits, a tie going to the even digit. -/
def FiniteDouble.numberText (f : FiniteDouble) : List Char := (f.shortest .toEven).numberText

/-- The plain decimal text: shortest digits, a tie going up. -/
def Double.plainText : Double → List Char
  | .nan => ['N', 'a', 'N']
  | .infinite negative => (if negative then ['-'] else []) ++ ['i', 'n', 'f']
  | .finite f => (f.shortest .up).plainText

end ChangeSieve
