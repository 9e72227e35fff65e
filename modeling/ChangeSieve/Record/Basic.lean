import ChangeSieve.Attribute.Basic

/-! Change records: plain JSON with typed attribute values inside. -/
namespace ChangeSieve

inductive Record where
  | null
  | boolean (value : Bool)
  | number (value : Number)
  | string (text : String)
  | list (items : List Record)
  | typed (value : Attribute)
  | object (fields : List (String × Record))

namespace Record

def fields? : Record → Option (List (String × Record))
  | .object fields => some fields
  | _ => none

def get? (r : Record) (key : String) : Option Record := r.fields?.bind (Fields.get? key)

def follow? (r : Record) : List String → Option Record
  | [] => some r
  | key :: keys => (r.get? key).bind fun child => child.follow? keys

/-- The part reached by the keys between the dots of a path. -/
def pointer? (r : Record) (path : String) : Option Record :=
  r.follow? ((Text.split '.' path.toList).map String.ofList)

def string? : Record → Option String
  | .string s => some s
  | _ => none

def typed? : Record → Option Attribute
  | .typed a => some a
  | _ => none

def display : Record → String
  | .null => "null"
  | .boolean b => toString b
  | .number n => n.text
  | .string s => Text.quoted s
  | .list items => s!"[{items.length} items]"
  | .typed a => a.display
  | .object fields => "\x7b" ++ toString fields.length ++ " keys\x7d"

mutual

/-- Equality of values, where an integer differs from a float. -/
def same : Record → Record → Bool
  | .null, .null => true
  | .boolean a, .boolean b => a == b
  | .number a, .number b => a.same b
  | .string a, .string b => a == b
  | .list a, .list b => sameItems a b
  | .typed a, .typed b => a.same b
  | .object a, .object b => sameFields a b
  | _, _ => false
  termination_by structural a => a

def sameItems : List Record → List Record → Bool
  | [], [] => true
  | a :: as, b :: bs => a.same b && sameItems as bs
  | _, _ => false
  termination_by structural a => a

def sameFields : List (String × Record) → List (String × Record) → Bool
  | [], [] => true
  | (k, a) :: as, (l, b) :: bs => k == l && a.same b && sameFields as bs
  | _, _ => false
  termination_by structural a => a

end

end Record

end ChangeSieve
