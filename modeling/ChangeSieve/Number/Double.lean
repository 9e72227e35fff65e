/-! Double-precision numbers as a sign and a rank, with their order, bit patterns and exact rounding. -/
namespace ChangeSieve

def Double.octave : Nat := 0x10000000000000

/-- How many finite magnitudes there are, zero included. -/
def Double.span : Nat := 2047 * Double.octave

/-- A finite double-precision number: its sign, and how many magnitudes lie below its own. -/
structure FiniteDouble where
  negative : Bool
  rank : Fin Double.span
  deriving DecidableEq, Repr

/-- A double-precision number. All NaNs are one value. -/
inductive Double where
  | nan
  | infinite (negative : Bool)
  | finite (value : FiniteDouble)
  deriving DecidableEq, Repr

namespace FiniteDouble

def zero (negative : Bool) : FiniteDouble := ⟨negative, ⟨0, by decide⟩⟩

/-- The rank with the sign of the number; both zeros stand at 0. -/
def order (f : FiniteDouble) : Int := if f.negative then -(f.rank : Int) else f.rank

/-- Numeric equality, which does not tell the two zeros apart. -/
def same (a b : FiniteDouble) : Bool := a.order == b.order

end FiniteDouble

namespace Double

def zero (negative : Bool) : Double := .finite (.zero negative)

/-- Place on the extended number line; NaN has none. -/
def order : Double → Option Int
  | .nan => none
  | .infinite negative => some (if negative then -(span : Int) else span)
  | .finite f => some f.order

/-- Holds of two numbers whose places are in relation; NaN is in relation to nothing. -/
def related (holds : Int → Int → Bool) (a b : Double) : Bool :=
  match a.order, b.order with
  | some x, some y => holds x y
  | _, _ => false

def equal : Double → Double → Bool := related (· == ·)

def less : Double → Double → Bool := related (· < ·)

def atMost : Double → Double → Bool := related (· ≤ ·)

def isFinite : Double → Bool
  | .finite _ => true
  | _ => false

def signBit (negative : Bool) : Nat := if negative then 0x8000000000000000 else 0

/-- The 64-bit pattern; NaN has many. -/
def bits? : Double → Option Nat
  | .nan => none
  | .infinite negative => some (signBit negative + span)
  | .finite f => some (signBit f.negative + f.rank)

def unitsOfRank (rank : Nat) : Nat :=
  if rank < octave then rank else (octave + rank % octave) <<< (rank / octave - 1)

/-- The integer nearest to a quotient; a half goes to the even neighbour. -/
def roundHalfEven (num den : Nat) : Nat :=
  let q := num / den
  let r := num % den
  if 2 * r < den then q else if den < 2 * r then q + 1 else q + q % 2

/-- The rank of the magnitude nearest to `num / den`; `span` or more when it is past all finite ones. -/
def rankOfQuotient (num den : Nat) : Nat :=
  let scaled := num <<< 1074
  let shift := (scaled / den).log2 - 52
  shift * octave + roundHalfEven scaled (den <<< shift)

def ofRank (negative : Bool) (rank : Nat) : Double :=
  if h : rank < span then .finite ⟨negative, ⟨rank, h⟩⟩ else .infinite negative

def ofQuotient (negative : Bool) (num den : Nat) : Double :=
  ofRank negative (rankOfQuotient num den)

def ofInt (i : Int) : Double := ofQuotient (i < 0) i.natAbs 1

end Double

def FiniteDouble.units (f : FiniteDouble) : Nat := Double.unitsOfRank f.rank

end ChangeSieve
