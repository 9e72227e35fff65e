import ChangeSieve.Json.Basic

/-! Compact JSON texts: no blanks, members in their order, as few escapes as possible. -/
namespace ChangeSieve.Json

def writeChar (c : Char) : List Char :=
  if c = '"' then ['\\', '"']
  else if c = '\\' then ['\\', '\\']
  else if c = '\x08' then ['\\', 'b']
  else if c = '\x0c' then ['\\', 'f']
  else if c = '\n' then ['\\', 'n']
  else if c = '\r' then ['\\', 'r']
  else if c = '\t' then ['\\', 't']
  else if c.toNat < 0x20 then
    ['\\', 'u', '0', '0', Nat.digitChar (c.toNat / 16), Nat.digitChar (c.toNat % 16)]
  else [c]

def writeString (s : String) : List Char := '"' :: s.toList.flatMap writeChar ++ ['"']

mutual

def chars : Json → List Char
  | .null => ['n', 'u', 'l', 'l']
  | .boolean true => ['t', 'r', 'u', 'e']
  | .boolean false => ['f', 'a', 'l', 's', 'e']
  | .number n => n.chars
  | .string s => writeString s
  | .array items => '[' :: itemChars items ++ [']']
  | .object members => '{' :: memberChars members ++ ['}']
  termination_by structural value => value

def itemChars : List Json → List Char
  | [] => []
  | [value] => value.chars
  | value :: rest => value.chars ++ ',' :: itemChars rest
  termination_by structural items => items

def memberChars : List (String × Json) → List Char
  | [] => []
  | [(key, value)] => writeString key ++ ':' :: value.chars
  | (key, value) :: rest => writeString key ++ ':' :: value.chars ++ ',' :: memberChars rest
  termination_by structural members => members

end

def text (value : Json) : String := String.ofList value.chars

end ChangeSieve.Json
