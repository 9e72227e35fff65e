import ChangeSieve.Json.Content

/-! JSON forms of structures: an object of named fields, or an array of the fields in order. -/
namespace ChangeSieve

/-- A structure's name and the names of its fields in order; the first `required` of them have no default. -/
structure Shape where
  name : String
  fields : List String
  required : Nat

namespace Shape

/-- The fields that a value gives, in the order in which they are read. -/
def given (shape : Shape) : Json → Except ContentError (List (String × Json))
  | .object members => .ok members
  | .array items => .ok (shape.fields.zip items)
  | v => .error (.wrongType v (.structure shape.name))

/-- The fault in the number or set of the given fields, which is found after the fields have been read. -/
def gap? (shape : Shape) : Json → Option ContentError
  | .object members =>
    ((shape.fields.take shape.required).find? fun name => (Fields.get? name members).isNone).map .missingField
  | .array items =>
    if items.length < shape.required then some (.tooFewFields items.length shape.name shape.fields.length)
    else if shape.fields.length < items.length then some (.tooManyFields items.length)
    else none
  | _ => none

/-- Reads field after field into a value, starting from the defaults, and then looks for a gap. -/
def read {α : Type} (shape : Shape) (step : α → String × Json → Except ContentError α) (defaults : α)
    (v : Json) : Except ContentError α := do
  let fields ← shape.given v
  let result ← fields.foldlM step defaults
  match shape.gap? v with
  | some e => .error e
  | none => .ok result

end Shape

end ChangeSieve
