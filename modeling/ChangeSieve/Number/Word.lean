/-! Numbers of 64 bits as they are written in settings, arguments and messages. -/
namespace ChangeSieve.Word

/-- Reads digits, with a plus sign in front or none, as a number of at most 64 bits. -/
def ofText? (cs : List Char) : Option Nat :=
  let digits := match cs with
    | '+' :: rest => rest
    | cs => cs
  if digits ≠ [] ∧ digits.all Char.isDigit then
    let n := Nat.ofDigitChars 10 digits 0
    if n < 0x10000000000000000 then some n else none
  else none

def positive? (cs : List Char) : Option Nat := (ofText? cs).filter (0 < ·)

end ChangeSieve.Word
