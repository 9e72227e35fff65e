import ChangeSieve.Number.Decimal
import ChangeSieve.Number.Word

/-!
Positions at the end of messages. A message that ends as one with a position does is read as such: line 0 stands for no
position and is left out, and any other position is written with plain numbers.
-/
namespace ChangeSieve.Text

structure Position where
  line : Nat
  column : Nat
  deriving DecidableEq, Repr

def splitLast? (part : List Char) : List Char → Option (List Char × List Char)
  | [] => none
  | c :: rest =>
    match splitLast? part rest with
    | some (before, after) => some (c :: before, after)
    | none => if part.isPrefixOf (c :: rest) then some ([], (c :: rest).drop part.length) else none

namespace Position

def lineMark : List Char := " at line ".toList

def columnMark : List Char := " column ".toList

def ofChars? (cs : List Char) : Option Position := do
  let (line, rest) := Decimal.splitDigits cs
  let (column, left) := Decimal.splitDigits (rest.drop columnMark.length)
  if columnMark.isPrefixOf rest ∧ left = [] then return ⟨← Word.ofText? line, ← Word.ofText? column⟩ else none

/-- The position at the end of a message, and the message before it. -/
def split? (message : List Char) : Option (List Char × Position) := do
  let (before, after) ← splitLast? lineMark message
  return (before, ← ofChars? after)

def text (p : Position) : String := s!" at line {p.line} column {p.column}"

/-- Writes the position of a message anew, or leaves it out where it stands for none. -/
def restate (message : String) : String :=
  match split? message.toList with
  | some (before, p) => if p.line = 0 then String.ofList before else String.ofList before ++ p.text
  | none => message

end Position

end ChangeSieve.Text
