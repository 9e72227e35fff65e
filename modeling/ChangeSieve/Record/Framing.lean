import ChangeSieve.Json.Reader
import ChangeSieve.Record.Decode

/-! Texts of many records: a batch document, a single record, or one record a line. -/
namespace ChangeSieve.Record

/-- Why a text does not hold records; a line is given where the text is read line by line. -/
inductive FramingError where
  | whole (error : InputError)
  | line (index : Nat) (error : InputError)

def FramingError.context : FramingError → String
  | .whole _ => "invalid JSON input: "
  | .line index _ => s!"invalid record on line {index}: "

def FramingError.cause : FramingError → InputError
  | .whole error => error
  | .line _ error => error

/-- The message, and the fault in the text as the cause of it. -/
def FramingError.chain (words : String → String) (error : FramingError) : List String :=
  let cause := error.cause.message words
  [error.context ++ cause, cause]

def batchKey : String := "Records"

variable [Json.FloatReading]

def ofText (text : String) : Except InputError Record := Json.readAs decode text

/-- Reads a batch: an object with a list of records, or an array of this list alone. No list is no records. -/
def decodeBatch : Json → Except ContentError (List Record)
  | .object members =>
    match Fields.get? batchKey members with
    | some v => do
      let items ← v.asItems
      decodeItems items
    | none => .ok []
  | .array [] => .ok []
  | .array [v] => do
    let items ← v.asItems
    decodeItems items
  | .array (v :: rest) => do
    let items ← v.asItems
    let _ ← decodeItems items
    .error (.tooManyFields (rest.length + 1))
  | v => .error (.wrongType v (.structure "StreamBatch"))

def isBatch (v : Json) : Bool :=
  match v.get? batchKey with
  | some (.array _) => true
  | _ => false

/-- Reads lines as records from a line number on; blank lines are skipped. -/
def ofLines (index : Nat) : List (List Char) → Except FramingError (List Record)
  | [] => .ok []
  | line :: rest =>
    if Text.trim line = [] then ofLines (index + 1) rest
    else do
      let r ← (ofText (String.ofList line)).mapError (.line index)
      let rs ← ofLines (index + 1) rest
      return r :: rs

/-- Reads every record of a text, which is one JSON value or else has a record on each line. -/
def allOfText (text : String) : Except FramingError (List Record) :=
  match Json.read text with
  | .error _ => ofLines 1 (Text.lines text.toList)
  | .ok v =>
    if isBatch v then (decodeBatch v).mapError fun e => .whole (.content e)
    else ((decode v).map ([·])).mapError fun e => .whole (.content e)

end ChangeSieve.Record
