/-! Base64 with the standard alphabet, required padding and zero spare bits: each byte string has one text. -/
namespace ChangeSieve.Base64

/-- The first fault of a text, with bytes of its UTF-8 form as numbers. -/
inductive Error where
  | invalidByte (byte : UInt8) (offset : Nat)
  | invalidLength (length : Nat)
  | invalidLastSymbol (byte : UInt8) (offset : Nat)
  | invalidPadding
  deriving DecidableEq, Repr

def Error.message : Error → String
  | .invalidByte byte offset => s!"Invalid symbol {byte.toNat}, offset {offset}."
  | .invalidLength length => s!"Invalid input length: {length}"
  | .invalidLastSymbol byte offset => s!"Invalid last symbol {byte.toNat}, offset {offset}."
  | .invalidPadding => "Invalid padding"

def pad : UInt8 := 61

def symbol (n : Nat) : Char :=
  if n < 26 then Char.ofNat (n + 65)
  else if n < 52 then Char.ofNat (n + 71)
  else if n < 62 then Char.ofNat (n - 4)
  else if n = 62 then '+'
  else '/'

def symbolValue? (byte : UInt8) : Option Nat :=
  let b := byte.toNat
  if 65 ≤ b ∧ b ≤ 90 then some (b - 65)
  else if 97 ≤ b ∧ b ≤ 122 then some (b - 71)
  else if 48 ≤ b ∧ b ≤ 57 then some (b + 4)
  else if b = 43 then some 62
  else if b = 47 then some 63
  else none

/-- Places of symbols that start at an offset; the first byte outside the alphabet is the error. -/
def symbolValues (offset : Nat) : List UInt8 → Except Error (List Nat)
  | [] => .ok []
  | byte :: rest => match symbolValue? byte with
    | none => .error (.invalidByte byte offset)
    | some n => do
      let ns ← symbolValues (offset + 1) rest
      return n :: ns

def bytes : List Nat → List UInt8
  | a :: b :: c :: d :: rest =>
    UInt8.ofNat (a * 4 + b / 16) :: UInt8.ofNat (b % 16 * 16 + c / 4) :: UInt8.ofNat (c % 4 * 64 + d) :: bytes rest
  | [a, b, c] => [UInt8.ofNat (a * 4 + b / 16), UInt8.ofNat (b % 16 * 16 + c / 4)]
  | [a, b] => [UInt8.ofNat (a * 4 + b / 16)]
  | _ => []

/-- The low bits of the last of two or three values, which belong to no byte. -/
def spareBits : List Nat → Nat
  | [_, b] => b % 16
  | [_, _, c] => c % 4
  | _ => 0

/-- Values of the last one to four bytes of a text, of which the last two may be padding. -/
def lastGroup (start : Nat) (group : List UInt8) : Except Error (List Nat) := do
  let symbols := group.takeWhile (· != pad)
  let padding := group.dropWhile (· != pad)
  let values ← symbolValues start symbols
  if padding ≠ [] ∧ (symbols.length < 2 ∨ padding.any (· != pad)) then
    .error (.invalidByte pad (start + symbols.length))
  else if symbols.length < 2 then .error (.invalidLength (start + symbols.length))
  else if symbols.length + padding.length ≠ 4 then .error .invalidPadding
  else if spareBits values ≠ 0 then
    .error (.invalidLastSymbol (symbols.getLast?.getD pad) (start + symbols.length - 1))
  else .ok values

/-- A last byte that is alone in its group and neither a symbol nor padding. -/
def strayByte? (text : List UInt8) : Option UInt8 :=
  if text.length % 4 = 1 then
    text.getLast?.filter fun byte => byte != pad && (symbolValue? byte).isNone
  else none

def decodeBytes (text : List UInt8) : Except Error (List UInt8) :=
  if text = [] then .ok []
  else match strayByte? text with
    | some byte => .error (.invalidByte byte (text.length - 1))
    | none => do
      let start := (text.length - 1) / 4 * 4
      let front ← symbolValues 0 (text.take start)
      let last ← lastGroup start (text.drop start)
      return bytes (front ++ last)

def decode (text : String) : Except Error (List UInt8) :=
  decodeBytes (text.toList.flatMap String.utf8EncodeChar)

def encodeChars : List UInt8 → List Char
  | a :: b :: c :: rest =>
    symbol (a.toNat / 4) :: symbol (a.toNat % 4 * 16 + b.toNat / 16) :: symbol (b.toNat % 16 * 4 + c.toNat / 64) ::
      symbol (c.toNat % 64) :: encodeChars rest
  | [a, b] =>
    [symbol (a.toNat / 4), symbol (a.toNat % 4 * 16 + b.toNat / 16), symbol (b.toNat % 16 * 4), '=']
  | [a] => [symbol (a.toNat / 4), symbol (a.toNat % 4 * 16), '=', '=']
  | [] => []

def encode (data : List UInt8) : String := String.ofList (encodeChars data)

end ChangeSieve.Base64
