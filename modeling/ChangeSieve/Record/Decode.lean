import ChangeSieve.Attribute.Decode
import ChangeSieve.Record.Basic

/-! Reading change records from JSON values. -/
namespace ChangeSieve.Record

/--
Says whether an object is a typed attribute value: one key, a type, over content of the shape of that type.
Any other object is an object of the record, also when its one key is the name of a type.
-/
def isContainer : List (String × Json) → Bool
  | [(key, content)] => (Descriptor.ofName? key).any fun d => d.fits content
  | _ => false

mutual

def decode : Json → Except ContentError Record
  | .null => .ok .null
  | .boolean b => .ok (.boolean b)
  | .number n => .ok (.number n)
  | .string s => .ok (.string s)
  | .array items => do
    let rs ← decodeItems items
    return .list rs
  | .object members =>
    if isContainer members then do
      let a ← Attribute.decode (.object members)
      return .typed a
    else do
      let fields ← decodeMembers members
      return .object fields
  termination_by structural value => value

def decodeItems : List Json → Except ContentError (List Record)
  | [] => .ok []
  | v :: rest => do
    let r ← decode v
    let rs ← decodeItems rest
    return r :: rs
  termination_by structural items => items

def decodeMembers : List (String × Json) → Except ContentError (List (String × Record))
  | [] => .ok []
  | (key, v) :: rest => do
    let r ← decode v
    let fields ← decodeMembers rest
    return (key, r) :: fields
  termination_by structural members => members

end

end ChangeSieve.Record
