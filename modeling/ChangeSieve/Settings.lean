import ChangeSieve.Json.Structure
import ChangeSieve.Log
import ChangeSieve.Number.Word
import ChangeSieve.Text.Blank

/-! Settings: default values, environment variables, and their JSON form. -/
namespace ChangeSieve

structure Settings where
  defaultRegion : String
  logLevel : String
  tableNames : List (String × String)
  batchSize : Nat
  deriving DecidableEq, Repr

namespace Settings

def defaults : Settings := ⟨"us-east-1", "info", [], 100⟩

/-- A reference and its table around the first equals sign, both not blank. -/
def tableEntry? (entry : List Char) : Option (String × String) := do
  let (reference, table) ← Text.splitOnce? '=' entry
  let reference := Text.trim reference
  let table := Text.trim table
  if reference = [] ∨ table = [] then none else some (String.ofList reference, String.ofList table)

/-- Reads `reference=table` entries between commas; malformed entries are passed over, and later ones win. -/
def parseTableNames (raw : String) : List (String × String) :=
  Fields.ofList ((Text.split ',' raw.toList).filterMap tableEntry?)

structure Loaded where
  settings : Settings
  events : List Log.Event

/-- Takes the settings from variables; without a log level, any value of `SLS_DEBUG` asks for debug messages. -/
def ofLookup (lookup : String → Option String) : Loaded :=
  let logLevel := match lookup "LOG_LEVEL" with
    | some v => v
    | none => if (lookup "SLS_DEBUG").isSome then "debug" else defaults.logLevel
  let (batchSize, events) := match lookup "STREAM_BATCH_SIZE" with
    | none => (defaults.batchSize, [])
    | some v => match Word.positive? (Text.trim v.toList) with
      | some n => (n, [])
      | none => (defaults.batchSize, [Log.Event.batchSizeIgnored v])
  { settings :=
      { defaultRegion := (lookup "DEFAULT_REGION").getD defaults.defaultRegion
        logLevel := logLevel
        tableNames := ((lookup "STREAM_TABLE_NAMES").map parseTableNames).getD defaults.tableNames
        batchSize := batchSize }
    events := events }

def shape : Shape where
  name := "StreamFilterConfig"
  fields := ["defaultRegion", "logLevel", "tableNames", "batchSize"]
  required := 4

def decodeTable (entry : String × Json) : Except ContentError (String × String) :=
  entry.2.asString.map fun table => (entry.1, table)

def step (s : Settings) (field : String × Json) : Except ContentError Settings :=
  let (key, v) := field
  if key = "defaultRegion" then v.asString.map fun x => { s with defaultRegion := x }
  else if key = "logLevel" then v.asString.map fun x => { s with logLevel := x }
  else if key = "tableNames" then do
    let members ← v.asMembers
    let tables ← members.mapM decodeTable
    return { s with tableNames := tables }
  else if key = "batchSize" then v.asCount.map fun x => { s with batchSize := x }
  else .ok s

/-- Reads settings from their JSON form, in which every field must be given. -/
def decode : Json → Except ContentError Settings := shape.read step defaults

def toJson (s : Settings) : Json :=
  .object [
    ("batchSize", .ofNat s.batchSize),
    ("defaultRegion", .string s.defaultRegion),
    ("logLevel", .string s.logLevel),
    ("tableNames", .object (s.tableNames.map fun entry => (entry.1, .string entry.2)))]

end Settings

end ChangeSieve
