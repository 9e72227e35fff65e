import ChangeSieve.Json.Outline

/-!
Reading parts of a JSON text. A selection says what is read of an outline; the rest is passed over, whatever its numbers
and strings are and however deep it nests.
-/
namespace ChangeSieve.Json

/-- Reads what is wanted of an outline with at most the given number of levels of arrays and objects. -/
abbrev Selection := Nat → Outline → Option Json

namespace Selection
variable [FloatReading]

def whole : Selection := Outline.value?

def single : Selection
  | _, .object [] => none
  | _, .object (_ :: _ :: _) => none
  | depth, outline => whole depth outline

/-- Reads the members of an object: the named ones by their selections, and others by one of their own or not at all. -/
def members? (named : List (String × Selection)) (others : Option Selection) (depth : Nat)
    (members : List (List Piece × Outline)) : Option (List (String × Json)) := do
  let read ← members.mapM fun (key, outline) => do
    let key ← Piece.string? key
    match (named.lookup key).or others with
    | some select => do
      let v ← select depth outline
      return some (key, v)
    | none => return none
  let read := read.filterMap id
  let keys := (read.map Prod.fst).filter fun key => (named.lookup key).isSome
  if keys.Nodup then some read else none

/--
A structure: an object of its fields, each at most once, or an array of them in order. Other members are passed over.
-/
def fields (named : List (String × Selection)) : Selection
  | depth + 1, .object members => (members? named none depth members).map fun read => .object (Fields.ofList read)
  | depth + 1, .array items => do
    let read ← (named.zip items).mapM fun (field, outline) => field.2 depth outline
    return .array (read ++ (items.drop named.length).map fun _ => .null)
  | depth, outline => whole depth outline

/-- An object with some named members, each at most once, and others that are kept. -/
def record (named : List (String × Selection)) : Selection
  | depth + 1, .object members => (members? named whole depth members).map fun read => .object (Fields.ofList read)
  | depth, outline => whole depth outline

def items (each : Selection) : Selection
  | depth + 1, .array items => (items.mapM (each depth)).map .array
  | depth, outline => whole depth outline

/-- An object with one selection for its values. All of them stay, in the order of the text, also under equal keys. -/
def entries (each : Selection) : Selection
  | depth + 1, .object members => (members? [] each depth members).map .object
  | depth, outline => whole depth outline

end Selection

end ChangeSieve.Json
