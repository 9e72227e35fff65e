import ChangeSieve.Attribute.Encode
import ChangeSieve.Json.Writer
import ChangeSieve.Record.Basic

/-! Writing change records. -/
namespace ChangeSieve.Record

mutual

def toJson : Record → Json
  | .null => .null
  | .boolean b => .boolean b
  | .number n => .number n
  | .string s => .string s
  | .list items => .array (itemsToJson items)
  | .typed a => a.toJson
  | .object fields => .object (fieldsToJson fields)
  termination_by structural r => r

def itemsToJson : List Record → List Json
  | [] => []
  | r :: rest => r.toJson :: itemsToJson rest
  termination_by structural items => items

def fieldsToJson : List (String × Record) → List (String × Json)
  | [] => []
  | (key, r) :: rest => (key, r.toJson) :: fieldsToJson rest
  termination_by structural fields => fields

end

def text (r : Record) : String := r.toJson.text

end ChangeSieve.Record
