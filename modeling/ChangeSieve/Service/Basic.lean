import ChangeSieve.Json.Basic

/-! Service definitions: functions, their event sources, and the streams among these. -/
namespace ChangeSieve

inductive StreamType where
  | dynamodb
  | kinesis
  | other
  deriving DecidableEq, Repr

inductive StartingPosition where
  | latest
  | trimHorizon
  deriving DecidableEq, Repr

/-- How a definition names its stream: by its full name, by a name to look up, or by a property of a resource. -/
inductive StreamArn where
  | literal (text : String)
  | reference (name : String)
  | property (resource name : String)
  deriving DecidableEq, Repr

/-- A stream as an event source. Its filter patterns are not yet decoded. -/
structure StreamEvent where
  type : StreamType
  arn : StreamArn
  enabled : Option Bool
  batchSize : Option Nat
  startingPosition : Option StartingPosition
  filterPatterns : List Json

/-- An event source of a function: a stream, and whatever else is written beside it. -/
structure EventSource where
  stream : Option StreamEvent
  other : List (String × Json)

structure ServiceFunction where
  name : Option String
  handler : Option String
  events : List EventSource

structure Service where
  functions : List (String × ServiceFunction)
  resources : Json

def StreamType.name : StreamType → String
  | .dynamodb => "dynamodb"
  | .kinesis => "kinesis"
  | .other => "other"

def StartingPosition.name : StartingPosition → String
  | .latest => "LATEST"
  | .trimHorizon => "TRIM_HORIZON"

def StreamArn.display : StreamArn → String
  | .literal s => s
  | .reference s => s
  | .property resource name => resource ++ "." ++ name

namespace StreamEvent

def isDynamodb (e : StreamEvent) : Bool := e.type == .dynamodb

def isEnabled (e : StreamEvent) : Bool := e.enabled != some false

end StreamEvent

namespace ServiceFunction

def streamEvents (f : ServiceFunction) : List StreamEvent :=
  (f.events.filterMap EventSource.stream).filter StreamEvent.isDynamodb

def enabledStreamEvents (f : ServiceFunction) : List StreamEvent := f.streamEvents.filter StreamEvent.isEnabled

end ServiceFunction

def Service.streamFunctions (s : Service) : List (String × ServiceFunction) :=
  s.functions.filter fun entry => !entry.2.streamEvents.isEmpty

end ChangeSieve
