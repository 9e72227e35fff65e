import ChangeSieve.Attribute.Basic
import ChangeSieve.Base64

/-! Writing typed attribute values in one spelling: numbers as strings, nulls as their flag, bytes in base64. -/
namespace ChangeSieve.Attribute

def container (d : Descriptor) (content : Json) : Json := .object [(d.name, content)]

def base64 (data : List UInt8) : Json := .string (Base64.encode data)

mutual

def toJson : Attribute → Json
  | .string s => container .string (.string s)
  | .number t => container .number (.string t)
  | .binary data => container .binary (base64 data)
  | .stringSet members => container .stringSet (.array (members.map .string))
  | .numberSet members => container .numberSet (.array (members.map .string))
  | .binarySet members => container .binarySet (.array (members.map base64))
  | .boolean b => container .boolean (.boolean b)
  | .null b => container .null (.boolean b)
  | .list items => container .list (.array (itemsToJson items))
  | .map entries => container .map (.object (entriesToJson entries))
  termination_by structural a => a

def itemsToJson : List Attribute → List Json
  | [] => []
  | a :: rest => a.toJson :: itemsToJson rest
  termination_by structural items => items

def entriesToJson : List (String × Attribute) → List (String × Json)
  | [] => []
  | (key, a) :: rest => (key, a.toJson) :: entriesToJson rest
  termination_by structural entries => entries

end

end ChangeSieve.Attribute
