import ChangeSieve.Record.Basic

/-! What a filter sees at a position of a change record. -/
namespace ChangeSieve

inductive Scalar where
  | string (text : String)
  | number (value : Double)
  | binary (data : List UInt8)
  | boolean (value : Bool)

/-- A position of a change record as filters see it: a null is present, a collection has no value to compare. -/
inductive Subject where
  | absent
  | null
  | scalar (value : Scalar)
  | unsupported

namespace Subject

def isPresent : Subject → Bool
  | .absent => false
  | _ => true

def ofNumber? : Option Double → Subject
  | some d => .scalar (.number d)
  | none => .unsupported

def ofAttribute : Attribute → Subject
  | .string s => .scalar (.string s)
  | .number text => ofNumber? (Attribute.numberOfText? text)
  | .binary data => .scalar (.binary data)
  | .boolean b => .scalar (.boolean b)
  | .null true => .null
  | _ => .unsupported

/-- The typed and the plain spelling of a value are seen alike. -/
def ofRecord : Record → Subject
  | .null => .null
  | .boolean b => .scalar (.boolean b)
  | .number n => .scalar (.number n.toDouble)
  | .string s => .scalar (.string s)
  | .typed a => ofAttribute a
  | .list _ => .unsupported
  | .object _ => .unsupported

def ofRecord? : Option Record → Subject
  | some r => ofRecord r
  | none => .absent

end Subject

end ChangeSieve
