import ChangeSieve.Json.Reader

/-!
Outlines of JSON texts: arrays, objects and the spelling of everything else. An outline keeps equal keys apart, nests to
any depth, and does not look at what its numbers and strings stand for; `Outline.value?` does.
-/
namespace ChangeSieve.Json

/-- A piece of a string as it is written: a character, or the number of an escaped UTF-16 unit. -/
inductive Piece where
  | char (c : Char)
  | unit (n : Nat)
  deriving DecidableEq, Repr

/-- The characters that pieces stand for; surrogates have to come in pairs. -/
def Piece.resolve? : List Piece → Option (List Char)
  | [] => some []
  | .char c :: rest => (resolve? rest).map (c :: ·)
  | .unit n :: rest =>
    if Reader.isHighSurrogate n then
      match rest with
      | .unit low :: rest =>
        if Reader.isLowSurrogate low then (resolve? rest).map (Reader.surrogatePair n low :: ·) else none
      | _ => none
    else if Reader.isLowSurrogate n then none
    else (resolve? rest).map (Char.ofNat n :: ·)

def Piece.string? (pieces : List Piece) : Option String := (resolve? pieces).map String.ofList

inductive Outline where
  | null
  | boolean (value : Bool)
  | number (parts : Reader.NumberParts)
  | string (pieces : List Piece)
  | array (items : List Outline)
  | object (members : List (List Piece × Outline))

namespace Outline
variable [FloatReading]

mutual

def value? (depth : Nat) : Outline → Option Json
  | .null => some .null
  | .boolean b => some (.boolean b)
  | .number parts => parts.value.toOption.map .number
  | .string pieces => (Piece.string? pieces).map .string
  | .array items =>
    match depth with
    | 0 => none
    | depth + 1 => (values? depth items).map .array
  | .object members =>
    match depth with
    | 0 => none
    | depth + 1 => (memberValues? depth members).map fun fields => .object (Fields.ofList fields)
  termination_by structural outline => outline

def values? (depth : Nat) : List Outline → Option (List Json)
  | [] => some []
  | item :: rest => do
    let v ← value? depth item
    let vs ← values? depth rest
    return v :: vs
  termination_by structural items => items

def memberValues? (depth : Nat) : List (List Piece × Outline) → Option (List (String × Json))
  | [] => some []
  | (key, item) :: rest => do
    let key ← Piece.string? key
    let v ← value? depth item
    let vs ← memberValues? depth rest
    return (key, v) :: vs
  termination_by structural members => members

end

def piece? (c : Char) (rest : List Char) : Option (Piece × List Char) :=
  if c = '\\' then
    match rest with
    | [] => none
    | 'u' :: rest => (Reader.unit rest).toOption.map fun (n, rest) => (.unit n, rest)
    | d :: rest => (Reader.shortEscape? d).map fun e => (.char e, rest)
  else if c.toNat < 0x20 then none
  else some (.char c, rest)

def piecesUpTo? : Nat → List Char → Option (List Piece × List Char)
  | _, [] => none
  | 0, _ :: _ => none
  | n + 1, c :: rest =>
    if c = '"' then some ([], rest)
    else do
      let (p, rest) ← piece? c rest
      let (ps, rest) ← piecesUpTo? n rest
      return (p :: ps, rest)

def key? (limit : Nat) (cs : List Char) : Option (List Piece × List Char) :=
  match Reader.skipBlank cs with
  | '"' :: rest => do
    let (key, rest) ← piecesUpTo? limit rest
    match Reader.skipBlank rest with
    | ':' :: rest => some (key, rest)
    | _ => none
  | _ => none

def scalar? (limit : Nat) : List Char → Option (Outline × List Char)
  | [] => none
  | 'n' :: rest => (Reader.word .null ['u', 'l', 'l'] rest).toOption
  | 't' :: rest => (Reader.word (.boolean true) ['r', 'u', 'e'] rest).toOption
  | 'f' :: rest => (Reader.word (.boolean false) ['a', 'l', 's', 'e'] rest).toOption
  | '"' :: rest => (piecesUpTo? limit rest).map fun (pieces, rest) => (.string pieces, rest)
  | cs => (Reader.numberParts cs).toOption.map fun (parts, rest) => (.number parts, rest)

/-- An array or object that is still open, with what came before, last first. -/
inductive Open where
  | items (before : List Outline)
  | members (before : List (List Piece × Outline)) (key : List Piece)

/-- How far a text is read: what is open, innermost first, and the value just read, or none where one has to follow. -/
structure State where
  opened : List Open
  item : Option Outline
  rest : List Char

/-- Reads a value, or the start of an array or object that is not empty. -/
def begin? (limit : Nat) (opened : List Open) (cs : List Char) : Option State :=
  match Reader.skipBlank cs with
  | '[' :: rest =>
    match Reader.skipBlank rest with
    | ']' :: rest => some ⟨opened, some (.array []), rest⟩
    | rest => some ⟨.items [] :: opened, none, rest⟩
  | '{' :: rest =>
    match Reader.skipBlank rest with
    | '}' :: rest => some ⟨opened, some (.object []), rest⟩
    | rest => (key? limit rest).map fun (key, rest) => ⟨.members [] key :: opened, none, rest⟩
  | rest => (scalar? limit rest).map fun (item, rest) => ⟨opened, some item, rest⟩

/-- Reads what comes after a value in an array or object: a comma, or its end. -/
def continue? (limit : Nat) (opened : List Open) (item : Outline) (cs : List Char) : Open → Option State
  | .items before =>
    match Reader.skipBlank cs with
    | ',' :: rest => some ⟨.items (item :: before) :: opened, none, rest⟩
    | ']' :: rest => some ⟨opened, some (.array (item :: before).reverse), rest⟩
    | _ => none
  | .members before key =>
    match Reader.skipBlank cs with
    | ',' :: rest =>
      (key? limit rest).map fun (next, rest) => ⟨.members ((key, item) :: before) next :: opened, none, rest⟩
    | '}' :: rest => some ⟨opened, some (.object ((key, item) :: before).reverse), rest⟩
    | _ => none

/-- Reads on, in at most `n` steps, until a value stands alone; returns it and the text after it. -/
def finish? : Nat → State → Option (Outline × List Char)
  | 0, _ => none
  | n + 1, ⟨opened, none, rest⟩ =>
    match begin? n opened rest with
    | some state => finish? n state
    | none => none
  | _ + 1, ⟨[], some item, rest⟩ => some (item, rest)
  | n + 1, ⟨innermost :: opened, some item, rest⟩ =>
    match continue? n opened item rest innermost with
    | some state => finish? n state
    | none => none

def read? (text : String) : Option Outline := do
  let cs := text.toList
  let (outline, rest) ← finish? (cs.length + 2) ⟨[], none, cs⟩
  if Reader.skipBlank rest = [] then some outline else none

end Outline

end ChangeSieve.Json
