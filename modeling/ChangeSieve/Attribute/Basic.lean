import ChangeSieve.Json.Basic
import ChangeSieve.Text.Blank
import ChangeSieve.Text.Quoted

/-! Typed attribute values of change records. -/
namespace ChangeSieve

/--
A typed attribute value. Numbers keep their text; the entries of a map stand in the order in which they are gone
through.
-/
inductive Attribute where
  | string (text : String)
  | number (text : String)
  | binary (data : List UInt8)
  | stringSet (members : List String)
  | numberSet (members : List String)
  | binarySet (members : List (List UInt8))
  | boolean (value : Bool)
  | null (flag : Bool)
  | list (items : List Attribute)
  | map (entries : List (String × Attribute))

inductive Descriptor where
  | string
  | number
  | binary
  | stringSet
  | numberSet
  | binarySet
  | boolean
  | null
  | list
  | map
  deriving DecidableEq, Repr

namespace Descriptor

def name : Descriptor → String
  | .string => "S"
  | .number => "N"
  | .binary => "B"
  | .stringSet => "SS"
  | .numberSet => "NS"
  | .binarySet => "BS"
  | .boolean => "BOOL"
  | .null => "NULL"
  | .list => "L"
  | .map => "M"

def all : List Descriptor :=
  [.string, .number, .binary, .stringSet, .numberSet, .binarySet, .boolean, .null, .list, .map]

def ofName? (name : String) : Option Descriptor := all.find? fun d => d.name == name

/-- Says whether content has the JSON shape of the type, whatever it holds. -/
def fits : Descriptor → Json → Bool
  | .string, .string _ => true
  | .binary, .string _ => true
  | .number, .string _ => true
  | .number, .number _ => true
  | .boolean, .boolean _ => true
  | .null, .boolean _ => true
  | .null, .string s => s == ""
  | .stringSet, .array _ => true
  | .numberSet, .array _ => true
  | .binarySet, .array _ => true
  | .list, .array _ => true
  | .map, .object _ => true
  | _, _ => false

end Descriptor

namespace Attribute

def descriptor : Attribute → Descriptor
  | .string _ => .string
  | .number _ => .number
  | .binary _ => .binary
  | .stringSet _ => .stringSet
  | .numberSet _ => .numberSet
  | .binarySet _ => .binarySet
  | .boolean _ => .boolean
  | .null _ => .null
  | .list _ => .list
  | .map _ => .map

/-- The number that a text means, whatever white space surrounds it. -/
def numberOfText? (text : String) : Option Double := Double.ofText? (Text.trim text.toList)

def toDouble? : Attribute → Option Double
  | .number text => numberOfText? text
  | _ => none

/-- A short description: the type, and the value or its size. -/
def display (a : Attribute) : String :=
  let size (n : Nat) (unit : String) := s!"<{n} {unit}>"
  let body := match a with
    | .string s => Text.quoted s
    | .number t => t
    | .binary data => size data.length "bytes"
    | .stringSet members => size members.length "members"
    | .numberSet members => size members.length "members"
    | .binarySet members => size members.length "members"
    | .boolean b => toString b
    | .null b => toString b
    | .list items => size items.length "items"
    | .map entries => size entries.length "keys"
  s!"{a.descriptor.name}:{body}"

mutual

/-- Equality of values; numbers are compared as texts, and maps whatever the order of their entries. -/
def same : Attribute → Attribute → Bool
  | .string a, .string b => a == b
  | .number a, .number b => a == b
  | .binary a, .binary b => a == b
  | .stringSet a, .stringSet b => a == b
  | .numberSet a, .numberSet b => a == b
  | .binarySet a, .binarySet b => a == b
  | .boolean a, .boolean b => a == b
  | .null a, .null b => a == b
  | .list a, .list b => sameItems a b
  | .map a, .map b => a.length == b.length && entriesOccur a b
  | _, _ => false
  termination_by structural a => a

def sameItems : List Attribute → List Attribute → Bool
  | [], [] => true
  | a :: as, b :: bs => a.same b && sameItems as bs
  | _, _ => false
  termination_by structural a => a

def entriesOccur : List (String × Attribute) → List (String × Attribute) → Bool
  | [], _ => true
  | (key, a) :: rest, bs => (Fields.get? key bs).any a.same && entriesOccur rest bs
  termination_by structural a => a

end

end Attribute

end ChangeSieve
