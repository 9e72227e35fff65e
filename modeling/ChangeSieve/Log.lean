/-! Events that the program reports while it works. -/
namespace ChangeSieve.Log

inductive Level where
  | debug
  | info
  | warn
  deriving DecidableEq, Repr

def Level.name : Level → String
  | .debug => "DEBUG"
  | .info => "INFO"
  | .warn => "WARN"

/-- The value of a field of an event. In a line for people a text stands in quotes, and a plain text as it is. -/
inductive Value where
  | count (n : Nat)
  | text (s : String)
  | plain (s : String)
  deriving DecidableEq, Repr

inductive Event where
  | recordDropped (eventName sequenceNumber : Option String) (patterns : Nat)
  | batchFiltered (received allowed dropped : Nat)
  | batchSizeIgnored (value : String)
  | streamSkipped (function arn error : String)
  | filterStarted (patterns batchSize : Nat)
  | filterDone (delivered : Nat)
  | sourcesResolved (sources : Nat)
  deriving DecidableEq, Repr

namespace Event

def level : Event → Level
  | .recordDropped .. => .debug
  | .batchSizeIgnored .. => .warn
  | .streamSkipped .. => .warn
  | _ => .info

def message : Event → String
  | .recordDropped .. => "filtered DynamoDB streams record"
  | .batchFiltered .. => "filtered DynamoDB streams batch"
  | .batchSizeIgnored .. => "ignoring invalid STREAM_BATCH_SIZE"
  | .streamSkipped .. => "skipping stream event"
  | .filterStarted .. => "filtering DynamoDB streams records"
  | .filterDone .. => "done"
  | .sourcesResolved .. => "resolved DynamoDB stream sources"

def target : Event → String
  | .recordDropped .. => "streamfilter_core::filter"
  | .batchFiltered .. => "streamfilter_core::filter"
  | .batchSizeIgnored .. => "streamfilter_core::config"
  | .streamSkipped .. => "streamfilter_core::source"
  | _ => "streamfilter::commands"

def optional (name : String) : Option String → List (String × Value)
  | some s => [(name, .text s)]
  | none => []

def fields : Event → List (String × Value)
  | .recordDropped eventName sequenceNumber patterns =>
    optional "event_name" eventName ++ optional "sequence_number" sequenceNumber ++
      [("patterns", .count patterns)]
  | .batchFiltered received allowed dropped =>
    [("received", .count received), ("allowed", .count allowed), ("dropped", .count dropped)]
  | .batchSizeIgnored value => [("value", .plain value)]
  | .streamSkipped function arn error =>
    [("function", .text function), ("arn", .plain arn), ("error", .plain error)]
  | .filterStarted patterns batchSize => [("patterns", .count patterns), ("batch_size", .count batchSize)]
  | .filterDone delivered => [("delivered", .count delivered)]
  | .sourcesResolved sources => [("sources", .count sources)]

end Event

end ChangeSieve.Log
