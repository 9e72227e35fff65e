import ChangeSieve.Json.Basic
import ChangeSieve.Text.Hexadecimal

/-! Reading JSON texts: strict grammar, at most 127 nested arrays and objects. -/
namespace ChangeSieve.Json

/-- Why a text is no JSON value: it breaks the grammar, or it ends too early. -/
inductive ReadError where
  | malformed
  | endOfText
  deriving DecidableEq, Repr

abbrev Result := Except ReadError

namespace Reader

/-- The four blank characters between JSON tokens. -/
def isBlank (c : Char) : Bool := c = ' ' || c = '\t' || c = '\n' || c = '\r'

def skipBlank (cs : List Char) : List Char := cs.dropWhile isBlank

def unexpected : List Char → ReadError
  | [] => .endOfText
  | _ :: _ => .malformed

def word {α : Type} (value : α) : List Char → List Char → Result (α × List Char)
  | [], rest => .ok (value, rest)
  | _ :: _, [] => .error .endOfText
  | e :: es, c :: cs => if c = e then word value es cs else .error .malformed

/-- Digits of a number up to the first other character; there must be one. -/
def digits (cs : List Char) : Result (List Char × List Char) :=
  let (ds, rest) := Decimal.splitDigits cs
  if ds = [] then .error (unexpected rest) else .ok (ds, rest)

/-- The whole part of a number, which has no leading zero unless it is zero. -/
def wholePart (cs : List Char) : Result (List Char × List Char) := do
  let (ds, rest) ← digits cs
  if ds.head? = some '0' ∧ ds ≠ ['0'] then .error .malformed else .ok (ds, rest)

def fractionPart : List Char → Result (Option (List Char) × List Char)
  | '.' :: rest => do
    let (ds, rest) ← digits rest
    return (some ds, rest)
  | rest => .ok (none, rest)

def exponentPart : List Char → Result (Option Int × List Char)
  | c :: rest =>
    if c = 'e' ∨ c = 'E' then do
      let (negative, rest) := Decimal.splitSign rest
      let (ds, rest) ← digits rest
      let n : Int := Nat.ofDigitChars 10 ds 0
      return (some (if negative then -n else n), rest)
    else .ok (none, c :: rest)
  | [] => .ok (none, [])

structure NumberParts where
  negative : Bool
  whole : List Char
  fraction : Option (List Char)
  exponent : Option Int
  deriving DecidableEq, Repr

def NumberParts.decimal (p : NumberParts) : Decimal :=
  .ofParts p.negative p.whole (p.fraction.getD []) (p.exponent.getD 0)

end Reader

/--
How a number that is no integer of a word is read as a double. Fast readers may miss the nearest double by a little, so
nothing is laid down here; `ReadsBack` and `nearest` are what may be asked of a reading.
-/
class FloatReading where
  read : Reader.NumberParts → Double

namespace Reader
variable [FloatReading]

/--
The number of the parts. Without point and exponent it is an integer if it fits a word; the integer zero has no sign.
Any other number is read as a double, which must be finite.
-/
def NumberParts.value (p : NumberParts) : Result Number :=
  let n : Int := Nat.ofDigitChars 10 p.whole 0
  let i := if p.negative then -n else n
  if h : FitsWord i ∧ p.fraction = none ∧ p.exponent = none ∧ ¬(p.negative ∧ n = 0) then .ok (.integer i h.1)
  else match FloatReading.read p with
    | .finite f => .ok (.float f)
    | _ => .error .malformed

def numberParts (cs : List Char) : Result (NumberParts × List Char) := do
  let (negative, rest) := match cs with
    | '-' :: rest => (true, rest)
    | rest => (false, rest)
  let (whole, rest) ← wholePart rest
  let (fraction, rest) ← fractionPart rest
  let (exponent, rest) ← exponentPart rest
  return (⟨negative, whole, fraction, exponent⟩, rest)

def number (cs : List Char) : Result (Number × List Char) := do
  let (parts, rest) ← numberParts cs
  let n ← parts.value
  return (n, rest)

/-- Reads the four hexadecimal digits of a UTF-16 unit; fewer than four bytes of text are too few. -/
def unit (cs : List Char) : Result (Nat × List Char) :=
  let ds := cs.take 4
  if ds.foldl (fun size c => size + c.utf8Size) 0 < 4 then .error .endOfText
  else match Text.hexValue? ds with
    | some n => .ok (n, cs.drop 4)
    | none => .error .malformed

def isHighSurrogate (n : Nat) : Bool := 0xD800 ≤ n && n < 0xDC00

def isLowSurrogate (n : Nat) : Bool := 0xDC00 ≤ n && n < 0xE000

def surrogatePair (high low : Nat) : Char := Char.ofNat (0x10000 + (high - 0xD800) * 0x400 + (low - 0xDC00))

/-- Reads what follows `\u`: one unit, or two units that make a surrogate pair. -/
def unicodeEscape (cs : List Char) : Result (Char × List Char) := do
  let (high, rest) ← unit cs
  if isLowSurrogate high then .error .malformed
  else if isHighSurrogate high then
    match rest with
    | '\\' :: 'u' :: rest => do
      let (low, rest) ← unit rest
      if isLowSurrogate low then .ok (surrogatePair high low, rest) else .error .malformed
    | ['\\'] => .error .endOfText
    | rest => .error (unexpected rest)
  else .ok (Char.ofNat high, rest)

def shortEscape? : Char → Option Char
  | '"' => some '"'
  | '\\' => some '\\'
  | '/' => some '/'
  | 'b' => some '\x08'
  | 'f' => some '\x0c'
  | 'n' => some '\n'
  | 'r' => some '\r'
  | 't' => some '\t'
  | _ => none

def escape : List Char → Result (Char × List Char)
  | [] => .error .endOfText
  | 'u' :: rest => unicodeEscape rest
  | c :: rest => match shortEscape? c with
    | some d => .ok (d, rest)
    | none => .error .malformed

/-- Reads one character of a string that starts with `c`; control characters must be escaped. -/
def stringChar (c : Char) (rest : List Char) : Result (Char × List Char) :=
  if c = '\\' then escape rest
  else if c.toNat < 0x20 then .error .malformed
  else .ok (c, rest)

def stringUpTo : Nat → List Char → Result (List Char × List Char)
  | _, [] => .error .endOfText
  | 0, _ :: _ => .error .endOfText
  | n + 1, c :: rest =>
    if c = '"' then .ok ([], rest)
    else do
      let (d, rest) ← stringChar c rest
      let (ds, rest) ← stringUpTo n rest
      return (d :: ds, rest)

def stringRest (limit : Nat) (cs : List Char) : Result (String × List Char) := do
  let (ds, rest) ← stringUpTo limit cs
  return (String.ofList ds, rest)

def seriesUpTo {α : Type} (close : Char) (item : List Char → Result (α × List Char)) :
    Nat → List Char → Result (List α × List Char)
  | 0, _ => .error .malformed
  | n + 1, cs => do
    let (a, rest) ← item cs
    match skipBlank rest with
    | [] => .error .endOfText
    | c :: rest =>
      if c = close then .ok ([a], rest)
      else if c = ',' then do
        let (as, rest) ← seriesUpTo close item n rest
        return (a :: as, rest)
      else .error .malformed

def series {α : Type} (limit : Nat) (close : Char) (item : List Char → Result (α × List Char)) (cs : List Char) :
    Result (List α × List Char) :=
  match skipBlank cs with
  | [] => .error .endOfText
  | c :: rest => if c = close then .ok ([], rest) else seriesUpTo close item limit (c :: rest)

def member (limit : Nat) (value : List Char → Result (Json × List Char)) (cs : List Char) :
    Result ((String × Json) × List Char) :=
  match skipBlank cs with
  | '"' :: rest => do
    let (key, rest) ← stringRest limit rest
    match skipBlank rest with
    | ':' :: rest => do
      let (v, rest) ← value rest
      return ((key, v), rest)
    | rest => .error (unexpected rest)
  | rest => .error (unexpected rest)

/-- Reads a value with at most `depth` levels of arrays and objects, in a text of less than `limit` characters. -/
def value (limit depth : Nat) (cs : List Char) : Result (Json × List Char) :=
  match skipBlank cs with
  | [] => .error .endOfText
  | 'n' :: rest => word .null ['u', 'l', 'l'] rest
  | 't' :: rest => word (.boolean true) ['r', 'u', 'e'] rest
  | 'f' :: rest => word (.boolean false) ['a', 'l', 's', 'e'] rest
  | '"' :: rest => do
    let (s, rest) ← stringRest limit rest
    return (.string s, rest)
  | '[' :: rest =>
    match depth with
    | 0 => .error .malformed
    | depth + 1 => do
      let (items, rest) ← series limit ']' (value limit depth) rest
      return (.array items, rest)
  | '{' :: rest =>
    match depth with
    | 0 => .error .malformed
    | depth + 1 => do
      let (members, rest) ← series limit '}' (member limit (value limit depth)) rest
      return (.object (Fields.ofList members), rest)
  | c :: rest =>
    if c = '-' ∨ c.isDigit then do
      let (n, rest) ← number (c :: rest)
      return (.number n, rest)
    else .error .malformed

end Reader

namespace FloatReading

/-- Every decimal is read as the nearest double. -/
@[reducible] def nearest : FloatReading := ⟨fun p => p.decimal.toDouble⟩

/-- The assumption that what is written of a double is read as this double. -/
def ReadsBack [FloatReading] : Prop :=
  ∀ (f : FiniteDouble) (p : Reader.NumberParts), Reader.numberParts f.numberText = .ok (p, []) → read p = .finite f

end FloatReading

def maxDepth : Nat := 127

variable [FloatReading]

def read (text : String) : Result Json := do
  let cs := text.toList
  let (v, rest) ← Reader.value (cs.length + 1) maxDepth cs
  if Reader.skipBlank rest = [] then .ok v else .error .malformed

end ChangeSieve.Json
