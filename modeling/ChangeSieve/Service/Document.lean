import ChangeSieve.Json.Selection
import ChangeSieve.Service.Decode

/-!
Service definitions as texts. Only the fields of a definition are read in full, and each may stand in it once; of
functions with equal keys all have to be readable, and the last one stands.
-/
namespace ChangeSieve

open Json (Selection)

variable [Json.FloatReading]

def StreamEvent.selection : Selection :=
  .fields [("type", .single), ("arn", .whole), ("enabled", .whole), ("batchSize", .whole),
    ("startingPosition", .single), ("filterPatterns", .whole)]

def EventSource.selection : Selection := .record [(streamKey, StreamEvent.selection)]

def ServiceFunction.selection : Selection :=
  .fields [("name", .whole), ("handler", .whole), ("events", .items EventSource.selection)]

def Service.selection : Selection :=
  .fields [("functions", .entries ServiceFunction.selection), ("resources", .whole)]

def Service.ofText? (text : String) : Option Service := do
  let outline ← Json.Outline.read? text
  let v ← selection Json.maxDepth outline
  let service ← (decode v).toOption
  return { service with functions := Fields.ofList service.functions }

end ChangeSieve
