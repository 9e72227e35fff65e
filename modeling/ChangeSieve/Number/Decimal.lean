import ChangeSieve.Number.Double

/-! Decimal numbers: their nearest double, and the texts that denote a double. -/
namespace ChangeSieve

/-- The number `digits * 10 ^ exponent` under a sign. -/
structure Decimal where
  negative : Bool
  digits : Nat
  exponent : Int
  deriving DecidableEq, Repr

def tenPow (n : Nat) : Nat := Nat.pow 10 n

namespace Decimal

def ofParts (negative : Bool) (whole fraction : List Char) (exponent : Int) : Decimal :=
  ⟨negative, Nat.ofDigitChars 10 (whole ++ fraction) 0, exponent - fraction.length⟩

/--
The nearest double. A magnitude of at least `10 ^ 400`, or small enough to be below `10 ^ -400`, is decided by its
size alone, so that no huge power of ten is built.
-/
def toDouble (d : Decimal) : Double :=
  if d.digits = 0 then .zero d.negative
  else if 400 ≤ d.exponent then .infinite d.negative
  else if d.exponent + d.digits.log2 < -400 then .zero d.negative
  else if 0 ≤ d.exponent then .ofQuotient d.negative (d.digits * tenPow d.exponent.toNat) 1
  else .ofQuotient d.negative d.digits (tenPow (-d.exponent).toNat)

/-- Splits a leading sign off; the flag says whether it is a minus. -/
def splitSign : List Char → Bool × List Char
  | '-' :: rest => (true, rest)
  | '+' :: rest => (false, rest)
  | rest => (false, rest)

def splitDigits (cs : List Char) : List Char × List Char :=
  (cs.takeWhile Char.isDigit, cs.dropWhile Char.isDigit)

def splitFraction : List Char → List Char × List Char
  | '.' :: rest => splitDigits rest
  | rest => ([], rest)

/-- Reads nothing as 0, and `e` or `E`, a sign or none, and digits as the exponent they write. -/
def exponent? : List Char → Option Int
  | [] => some 0
  | c :: rest =>
    let (negative, cs) := splitSign rest
    if (c = 'e' ∨ c = 'E') ∧ cs ≠ [] ∧ cs.all Char.isDigit then
      let n := Nat.ofDigitChars 10 cs 0
      some (if negative then -(n : Int) else n)
    else none

/-- Reads digits with an optional point, at least one digit in all, and an optional exponent. -/
def ofUnsigned? (negative : Bool) (cs : List Char) : Option Decimal :=
  let (whole, rest) := splitDigits cs
  let (fraction, rest) := splitFraction rest
  if whole ++ fraction = [] then none
  else (exponent? rest).map (ofParts negative whole fraction)

end Decimal

/-- Reads a float text: a sign or none, then `inf`, `infinity` or `nan` in any letter case, or a decimal. -/
def Double.ofText? (cs : List Char) : Option Double :=
  let (negative, body) := Decimal.splitSign cs
  let word := body.map Char.toLower
  if word = ['n', 'a', 'n'] then some .nan
  else if word = ['i', 'n', 'f'] ∨ word = ['i', 'n', 'f', 'i', 'n', 'i', 't', 'y'] then
    some (.infinite negative)
  else (Decimal.ofUnsigned? negative body).map Decimal.toDouble

end ChangeSieve
