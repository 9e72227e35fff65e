import ChangeSieve.Base64
import ChangeSieve.Json.Reader
import ChangeSieve.Text.Quoted

/-! Faults of JSON content: a well-formed value that is not the one wanted. -/
namespace ChangeSieve

inductive Expected where
  | string
  | boolean
  | count
  | sequence
  | map
  | stringOrMap
  | unit
  | structure (name : String)
  deriving DecidableEq, Repr

def Expected.name : Expected → String
  | .string => "a string"
  | .boolean => "a boolean"
  | .count => "usize"
  | .sequence => "a sequence"
  | .map => "a map"
  | .stringOrMap => "string or map"
  | .unit => "unit"
  | .structure name => "struct " ++ name

/-- Values that may be written in several forms, none of which was met. -/
inductive Forms where
  | textOrNumber
  | flagOrText
  | textOrPair
  deriving DecidableEq, Repr

def Forms.name : Forms → String
  | .textOrNumber => "Raw"
  | .flagOrText => "Raw"
  | .textOrPair => "RawStreamArn"

inductive ContentError where
  | wrongType (found : Json) (expected : Expected)
  | negativeCount (value : Int)
  | severalKeys
  | unknownName (name : String) (known : List String)
  | nameAlone
  | noForm (forms : Forms)
  | missingField (name : String)
  | tooFewFields (length : Nat) (name : String) (fields : Nat)
  | tooManyFields (length : Nat)
  | notANumber (text : String)
  | notANullMarker (text : String)
  | base64 (error : Base64.Error)

def Json.describe : Json → String
  | .null => "null"
  | .boolean b => s!"boolean `{b}`"
  | .number (.integer i h) => s!"integer `{(Number.integer i h).text}`"
  | .number (.float f) => s!"floating point `{(Number.float f).text}`"
  | .string s => "string " ++ Text.quoted s
  | .array _ => "sequence"
  | .object _ => "map"

def oneOf : List String → String
  | [a, b] => s!"`{a}` or `{b}`"
  | names => "one of " ++ ", ".intercalate (names.map fun name => s!"`{name}`")

def ContentError.message : ContentError → String
  | .wrongType found expected => s!"invalid type: {found.describe}, expected {expected.name}"
  | .negativeCount value => s!"invalid value: integer `{value}`, expected {Expected.count.name}"
  | .severalKeys => "invalid value: map, expected map with a single key"
  | .unknownName name known => s!"unknown variant `{name}`, expected {oneOf known}"
  | .nameAlone => "invalid type: unit variant, expected newtype variant"
  | .noForm forms => s!"data did not match any variant of untagged enum {forms.name}"
  | .missingField name => s!"missing field `{name}`"
  | .tooFewFields length name fields =>
    let elements := if fields = 1 then "element" else "elements"
    s!"invalid length {length}, expected struct {name} with {fields} {elements}"
  | .tooManyFields length => s!"invalid length {length}, expected fewer elements in array"
  | .notANumber text => s!"'{text}' is not a valid number"
  | .notANullMarker text => s!"NULL must be true or an empty string, got '{text}'"
  | .base64 error => error.message

namespace Json

def asString : Json → Except ContentError String
  | .string s => .ok s
  | v => .error (.wrongType v .string)

def asBoolean : Json → Except ContentError Bool
  | .boolean b => .ok b
  | v => .error (.wrongType v .boolean)

def asItems : Json → Except ContentError (List Json)
  | .array items => .ok items
  | v => .error (.wrongType v .sequence)

def asMembers : Json → Except ContentError (List (String × Json))
  | .object members => .ok members
  | v => .error (.wrongType v .map)

/-- A count is an integer from 0; a float never is one. -/
def asCount : Json → Except ContentError Nat
  | .number (.integer i _) => if i < 0 then .error (.negativeCount i) else .ok i.toNat
  | v => .error (.wrongType v .count)

def asOptional {α : Type} (read : Json → Except ContentError α) : Json → Except ContentError (Option α)
  | .null => .ok none
  | v => (read v).map some

end Json

/-- Why a text does not hold the content wanted: it is no JSON text, or its value is wrong. -/
inductive InputError where
  | text (error : Json.ReadError) (read : String)
  | content (error : ContentError)

/-- The message, with the words of the reader about a text that is no JSON value. -/
def InputError.message (words : String → String) : InputError → String
  | .text _ read => words read
  | .content error => error.message

def Json.readAs {α : Type} [Json.FloatReading] (decode : Json → Except ContentError α) (text : String) :
    Except InputError α :=
  match Json.read text with
  | .error e => .error (.text e text)
  | .ok v => (decode v).mapError .content

end ChangeSieve
