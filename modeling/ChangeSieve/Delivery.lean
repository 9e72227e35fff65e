import ChangeSieve.Log
import ChangeSieve.Match.Tree
import ChangeSieve.Pattern.Decode
import ChangeSieve.Record.Encode

/-! Delivering change records: the policy of a set of patterns, batches, and the written output. -/
namespace ChangeSieve

/-- The patterns in front of one consumer. Without patterns every record is delivered. -/
structure DeliveryFilter where
  patterns : List Pattern

namespace DeliveryFilter

def passAll : DeliveryFilter := ⟨[]⟩

def ofValues (values : List Json) : Except PatternError DeliveryFilter := (values.mapM Pattern.decode).map mk

/-- Reads a text that holds a pattern or an array of patterns. -/
def ofText [Json.FloatReading] (text : String) : Except Pattern.TextError DeliveryFilter :=
  (Pattern.readAs Pattern.decodeMany text).map mk

def allows (filter : DeliveryFilter) (r : Record) : Bool :=
  filter.patterns.isEmpty || Pattern.anyAdmits filter.patterns r

def dropEvent (filter : DeliveryFilter) (r : Record) : Log.Event :=
  .recordDropped ((r.get? "eventName").bind Record.string?)
    ((r.pointer? "dynamodb.SequenceNumber").bind Record.string?) filter.patterns.length

def keep (filter : DeliveryFilter) (batch : List Record) : List Record := batch.filter filter.allows

/-- The events of a batch: one for each record that is not delivered, and a summary. -/
def batchEvents (filter : DeliveryFilter) (batch : List Record) : List Log.Event :=
  let kept := filter.keep batch
  (batch.filter fun r => !filter.allows r).map filter.dropEvent ++
    [.batchFiltered batch.length kept.length (batch.length - kept.length)]

end DeliveryFilter

/-- The first `n` cuts of `size` members each; the last may be shorter. -/
def batchesUpTo {α : Type} (size : Nat) : Nat → List α → List (List α)
  | 0, _ => []
  | n + 1, as => if as.isEmpty then [] else as.take size :: batchesUpTo size n (as.drop size)

/-- Cuts a list into batches of a size, at least one member each. -/
def batches {α : Type} (size : Nat) (as : List α) : List (List α) := batchesUpTo (max size 1) as.length as

structure Delivered where
  output : String
  count : Nat
  events : List Log.Event

def Record.line (r : Record) : String := r.text ++ "\n"

/-- Delivers records in batches; a batch has at least one record. -/
def DeliveryFilter.deliver (filter : DeliveryFilter) (batchSize : Nat) (records : List Record) : Delivered :=
  let cut := batches batchSize records
  let kept := cut.flatMap filter.keep
  { output := String.join (kept.map Record.line)
    count := kept.length
    events := cut.flatMap filter.batchEvents }

end ChangeSieve
