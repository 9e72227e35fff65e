import ChangeSieve.Fields
import ChangeSieve.Number.Layout

/-! JSON values: numbers of two kinds, and objects as keyed lists. -/
namespace ChangeSieve

/-- Integers of the signed or of the unsigned 64-bit range. -/
def FitsWord (i : Int) : Prop := -0x8000000000000000 ≤ i ∧ i < 0x10000000000000000

instance (i : Int) : Decidable (FitsWord i) := inferInstanceAs (Decidable (_ ∧ _))

/-- A JSON number: a 64-bit integer or a finite double. -/
inductive Number where
  | integer (value : Int) (fits : FitsWord value)
  | float (value : FiniteDouble)
  deriving DecidableEq

namespace Number

def toDouble : Number → Double
  | .integer i _ => .ofInt i
  | .float f => .finite f

/-- The number text: an integer in decimal, a float as its shortest digits. -/
def chars : Number → List Char
  | .integer i _ => (if i < 0 then ['-'] else []) ++ Nat.toDigits 10 i.natAbs
  | .float f => f.numberText

def text (n : Number) : String := String.ofList n.chars

/-- Equality of numbers of one kind; an integer never equals a float. -/
def same : Number → Number → Bool
  | .integer a _, .integer b _ => a == b
  | .float a, .float b => a.same b
  | _, _ => false

end Number

/-- A JSON value. Objects that were read are sorted by key. -/
inductive Json where
  | null
  | boolean (value : Bool)
  | number (value : Number)
  | string (value : String)
  | array (items : List Json)
  | object (members : List (String × Json))

namespace Json

inductive Kind where
  | null
  | boolean
  | number
  | string
  | array
  | object
  deriving DecidableEq, Repr

def Kind.name : Kind → String
  | .null => "null"
  | .boolean => "boolean"
  | .number => "number"
  | .string => "string"
  | .array => "array"
  | .object => "object"

def kind : Json → Kind
  | .null => .null
  | .boolean _ => .boolean
  | .number _ => .number
  | .string _ => .string
  | .array _ => .array
  | .object _ => .object

def get? (key : String) : Json → Option Json
  | .object members => Fields.get? key members
  | _ => none

/-- A natural number as a JSON value; one past the 64-bit range becomes the nearest double. -/
def ofNat (n : Nat) : Json :=
  if h : FitsWord n then .number (.integer n h)
  else match Double.ofInt n with
    | .finite f => .number (.float f)
    | _ => .null

mutual

def Sorted : Json → Prop
  | .null => True
  | .boolean _ => True
  | .number _ => True
  | .string _ => True
  | .array items => SortedItems items
  | .object members => Fields.Sorted members ∧ SortedMembers members
  termination_by structural value => value

def SortedItems : List Json → Prop
  | [] => True
  | value :: rest => value.Sorted ∧ SortedItems rest
  termination_by structural items => items

def SortedMembers : List (String × Json) → Prop
  | [] => True
  | (_, value) :: rest => value.Sorted ∧ SortedMembers rest
  termination_by structural members => members

end

end Json

end ChangeSieve
