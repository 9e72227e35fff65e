import ChangeSieve.Service.Decode

/-! Writing service definitions. Fields without a value are left out. -/
namespace ChangeSieve

/-- The name that stands in a definition for a type; all other types share one. -/
def StreamType.toJson : StreamType → Json
  | .other => .string "Other"
  | t => .string t.name

def StreamArn.toJson : StreamArn → Json
  | .literal s => .string s
  | .reference s => .string s
  | .property resource name => .array [.string resource, .string name]

def memberIf {α : Type} (key : String) (write : α → Json) : Option α → List (String × Json)
  | some a => [(key, write a)]
  | none => []

def StreamEvent.toJson (e : StreamEvent) : Json :=
  .object <|
    ("arn", e.arn.toJson) :: memberIf "batchSize" Json.ofNat e.batchSize ++
      memberIf "enabled" Json.boolean e.enabled ++
      (if e.filterPatterns.isEmpty then [] else [("filterPatterns", .array e.filterPatterns)]) ++
      memberIf "startingPosition" (fun p : StartingPosition => .string p.name) e.startingPosition ++
      [("type", e.type.toJson)]

def EventSource.toJson (e : EventSource) : Json :=
  .object <| match e.stream with
    | some stream => Fields.insert EventSource.streamKey stream.toJson e.other
    | none => e.other

def ServiceFunction.toJson (f : ServiceFunction) : Json :=
  .object <|
    ("events", .array (f.events.map EventSource.toJson)) :: memberIf "handler" Json.string f.handler ++
      memberIf "name" Json.string f.name

def Service.toJson (s : Service) : Json :=
  .object [
    ("functions", .object (s.functions.map fun entry => (entry.1, entry.2.toJson))),
    ("resources", s.resources)]

end ChangeSieve
