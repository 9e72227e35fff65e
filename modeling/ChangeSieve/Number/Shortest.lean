import ChangeSieve.Number.Decimal

/-! The shortest decimal that reads back as a given double. -/
namespace ChangeSieve

inductive TieRule where
  | toEven
  | up
  deriving DecidableEq, Repr

namespace Decimal

def dropZeros : Nat → Decimal → Decimal
  | 0, d => d
  | n + 1, d =>
    if d.digits ≠ 0 ∧ d.digits % 10 = 0 then
      dropZeros n { d with digits := d.digits / 10, exponent := d.exponent + 1 }
    else d

end Decimal

namespace FiniteDouble

/-- The exact decimal value: the units are multiples of `2 ^ -1074 = 5 ^ 1074 * 10 ^ -1074`. -/
def exactDecimal (f : FiniteDouble) : Decimal := ⟨f.negative, f.units * Nat.pow 5 1074, -1074⟩

/-- Decimal digits of the magnitude down to the 400th place after the point. -/
def leadingDigits (f : FiniteDouble) : List Char := Nat.toDigits 10 ((f.units * tenPow 400) >>> 1074)

/-- Says whether the upper of the neighbours `k` and `k + 1` in units of `10 ^ exponent` is nearer. -/
def upperNearer (tie : TieRule) (f : FiniteDouble) (k : Nat) (exponent : Int) : Bool :=
  let value := 2 * f.units * tenPow (-exponent).toNat
  let middle := ((2 * k + 1) * tenPow exponent.toNat) <<< 1074
  if value = middle then tie == .up || k % 2 == 1 else middle < value

/--
The better of the two decimals with the first `n` of the leading digits that surround the magnitude,
if at least one of them reads back.
-/
def roundedTo? (tie : TieRule) (f : FiniteDouble) (leading : List Char) (n : Nat) : Option Decimal :=
  let k := Nat.ofDigitChars 10 (leading.take n) 0
  let exponent : Int := (leading.length : Int) - n - 400
  let lower : Decimal := ⟨f.negative, k, exponent⟩
  let upper : Decimal := ⟨f.negative, k + 1, exponent⟩
  match lower.toDouble == .finite f, upper.toDouble == .finite f with
  | true, true => some (if f.upperNearer tie k exponent then upper else lower)
  | true, false => some lower
  | false, true => some upper
  | false, false => none

/-- The nearest of the decimals with the fewest digits that read back, without trailing zeros. -/
def shortest (tie : TieRule) (f : FiniteDouble) : Decimal :=
  if f.rank.val = 0 then ⟨f.negative, 0, 0⟩
  else
    let leading := f.leadingDigits
    let found := ((List.range 17).map (· + 1)).findSome? (f.roundedTo? tie leading)
    (found.getD f.exactDecimal).dropZeros 2000

end FiniteDouble

end ChangeSieve
