import ChangeSieve.Json.Structure
import ChangeSieve.Service.Basic

/-! Reading service definitions from JSON values. -/
namespace ChangeSieve

/-- The name in a name without content: a string, or the key of an object over `null`. -/
def nameWithoutContent {α : Type} (ofName : String → Except ContentError α) : Json → Except ContentError α
  | .string name => ofName name
  | .object [(name, content)] => do
    let a ← ofName name
    match content with
    | .null => .ok a
    | v => .error (.wrongType v .unit)
  | .object _ => .error .severalKeys
  | v => .error (.wrongType v .stringOrMap)

def StreamType.decode : Json → Except ContentError StreamType :=
  nameWithoutContent fun name =>
    .ok (if name = "dynamodb" then .dynamodb else if name = "kinesis" then .kinesis else .other)

def StartingPosition.decode : Json → Except ContentError StartingPosition :=
  nameWithoutContent fun name =>
    if name = "LATEST" then .ok .latest
    else if name = "TRIM_HORIZON" then .ok .trimHorizon
    else .error (.unknownName name ["LATEST", "TRIM_HORIZON"])

/-- A text that starts as a full stream name does is one, any other is a reference. -/
def StreamArn.ofText (s : String) : StreamArn :=
  if ['a', 'r', 'n', ':'].isPrefixOf s.toList then .literal s else .reference s

def StreamArn.decode : Json → Except ContentError StreamArn
  | .string s => .ok (.ofText s)
  | .array [.string resource, .string name] => .ok (.property resource name)
  | _ => .error (.noForm .textOrPair)

namespace StreamEvent

def shape : Shape where
  name := "StreamEventDefinition"
  fields := ["type", "arn", "enabled", "batchSize", "startingPosition", "filterPatterns"]
  required := 2

structure Draft where
  type : Option StreamType
  arn : Option StreamArn
  enabled : Option Bool
  batchSize : Option Nat
  startingPosition : Option StartingPosition
  filterPatterns : List Json

def Draft.empty : Draft := ⟨none, none, none, none, none, []⟩

/-- Reads one field; a field that is not known is passed over. -/
def Draft.step (d : Draft) (field : String × Json) : Except ContentError Draft :=
  let (key, v) := field
  if key = "type" then (StreamType.decode v).map fun x => { d with type := some x }
  else if key = "arn" then (StreamArn.decode v).map fun x => { d with arn := some x }
  else if key = "enabled" then (v.asOptional Json.asBoolean).map fun x => { d with enabled := x }
  else if key = "batchSize" then (v.asOptional Json.asCount).map fun x => { d with batchSize := x }
  else if key = "startingPosition" then
    (v.asOptional StartingPosition.decode).map fun x => { d with startingPosition := x }
  else if key = "filterPatterns" then v.asItems.map fun x => { d with filterPatterns := x }
  else .ok d

def Draft.finish (d : Draft) : Except ContentError StreamEvent :=
  match d.type, d.arn with
  | some type, some arn => .ok ⟨type, arn, d.enabled, d.batchSize, d.startingPosition, d.filterPatterns⟩
  | none, _ => .error (.missingField "type")
  | _, none => .error (.missingField "arn")

def decode (v : Json) : Except ContentError StreamEvent := do
  let draft ← shape.read Draft.step Draft.empty v
  draft.finish

end StreamEvent

namespace EventSource

def streamKey : String := "stream"

/-- Reads an event source; everything but the stream is kept as it is. -/
def decode : Json → Except ContentError EventSource
  | .object members => do
    let stream ← match Fields.get? streamKey members with
      | some v => v.asOptional StreamEvent.decode
      | none => .ok none
    return ⟨stream, members.filter fun member => member.1 ≠ streamKey⟩
  | v => .error (.wrongType v (.structure "EventDefinition"))

end EventSource

namespace ServiceFunction

def shape : Shape where
  name := "FunctionDefinition"
  fields := ["name", "handler", "events"]
  required := 0

def step (f : ServiceFunction) (field : String × Json) : Except ContentError ServiceFunction :=
  let (key, v) := field
  if key = "name" then (v.asOptional Json.asString).map fun x => { f with name := x }
  else if key = "handler" then (v.asOptional Json.asString).map fun x => { f with handler := x }
  else if key = "events" then do
    let items ← v.asItems
    let events ← items.mapM EventSource.decode
    return { f with events := events }
  else .ok f

def decode : Json → Except ContentError ServiceFunction := shape.read step ⟨none, none, []⟩

end ServiceFunction

namespace Service

def shape : Shape where
  name := "ServiceDefinition"
  fields := ["functions", "resources"]
  required := 0

def decodeEntry (entry : String × Json) : Except ContentError (String × ServiceFunction) :=
  (ServiceFunction.decode entry.2).map fun f => (entry.1, f)

def step (s : Service) (field : String × Json) : Except ContentError Service :=
  let (key, v) := field
  if key = "functions" then do
    let members ← v.asMembers
    let functions ← members.mapM decodeEntry
    return { s with functions := functions }
  else if key = "resources" then .ok { s with resources := v }
  else .ok s

def decode : Json → Except ContentError Service := shape.read step ⟨[], .null⟩

end Service

end ChangeSieve
