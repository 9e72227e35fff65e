import ChangeSieve.Attribute.Basic
import ChangeSieve.Json.Content

/-! Reading typed attribute values: an object with one key, the type, over the content. -/
namespace ChangeSieve.Attribute

/-- Text of a number that is given as a string or as a JSON number. -/
def numberText : Json → Except ContentError String
  | .string s => .ok s
  | .number n => .ok n.text
  | _ => .error (.noForm .textOrNumber)

/-- Keeps the text of a finite number as it is. -/
def checkNumber (text : String) : Except ContentError String :=
  if (numberOfText? text).any Double.isFinite then .ok text else .error (.notANumber text)

def decodeBase64 (text : String) : Except ContentError (List UInt8) := (Base64.decode text).mapError .base64

/-- The flag of a null: a boolean, or the empty string for `true`. -/
def nullFlag : Json → Except ContentError Bool
  | .boolean b => .ok b
  | .string s => if s = "" then .ok true else .error (.notANullMarker s)
  | _ => .error (.noForm .flagOrText)

/-- Reads content without attribute values inside. All members of a set are looked at before any is decoded. -/
def decodeFlat (d : Descriptor) (content : Json) : Except ContentError Attribute :=
  match d with
  | .string => return .string (← content.asString)
  | .number => return .number (← checkNumber (← numberText content))
  | .binary => return .binary (← decodeBase64 (← content.asString))
  | .stringSet => return .stringSet (← (← content.asItems).mapM Json.asString)
  | .numberSet => return .numberSet (← (← (← content.asItems).mapM numberText).mapM checkNumber)
  | .binarySet => return .binarySet (← (← (← content.asItems).mapM Json.asString).mapM decodeBase64)
  | .boolean => return .boolean (← content.asBoolean)
  | .null => return .null (← nullFlag content)
  | .list => .error (.wrongType content .sequence)
  | .map => .error (.wrongType content .map)

mutual

def decode : Json → Except ContentError Attribute
  | .string name =>
    .error (if (Descriptor.ofName? name).isSome then .nameAlone
      else .unknownName name (Descriptor.all.map Descriptor.name))
  | .object [(key, content)] =>
    match Descriptor.ofName? key with
    | some d => decodeContent d content
    | none => .error (.unknownName key (Descriptor.all.map Descriptor.name))
  | .object _ => .error .severalKeys
  | v => .error (.wrongType v .stringOrMap)
  termination_by structural value => value

def decodeContent (d : Descriptor) : Json → Except ContentError Attribute
  | .array items =>
    match d with
    | .list => do
      let as ← decodeItems items
      return .list as
    | d => decodeFlat d (.array items)
  | .object members =>
    match d with
    | .map => do
      let entries ← decodeEntries members
      return .map entries
    | d => decodeFlat d (.object members)
  | v => decodeFlat d v
  termination_by structural content => content

def decodeItems : List Json → Except ContentError (List Attribute)
  | [] => .ok []
  | v :: rest => do
    let a ← decode v
    let as ← decodeItems rest
    return a :: as
  termination_by structural items => items

def decodeEntries : List (String × Json) → Except ContentError (List (String × Attribute))
  | [] => .ok []
  | (key, v) :: rest => do
    let a ← decode v
    let entries ← decodeEntries rest
    return (key, a) :: entries
  termination_by structural members => members

end

end ChangeSieve.Attribute
