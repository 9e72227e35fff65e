import ChangeSieve.Delivery
import ChangeSieve.Service.Basic

/-! The streams that a service consumes: their tables and filters. -/
namespace ChangeSieve

inductive SourceError where
  | missingTableMapping (reference : String)
  | missingResourceTableName (resource : String)
  | invalidArn (arn : String)
  | unsupportedProperty (resource name : String)
  | pattern (function : String) (error : PatternError)

def SourceError.message : SourceError → String
  | .missingTableMapping reference => s!"no table name configured for stream reference '{reference}'"
  | .missingResourceTableName resource => s!"resource '{resource}' does not declare Properties.TableName"
  | .invalidArn arn => s!"invalid DynamoDB stream ARN '{arn}'"
  | .unsupportedProperty resource name =>
    s!"unsupported attribute '{name}' on resource '{resource}', expected StreamArn"
  | .pattern function error => s!"invalid filter pattern for function '{function}': {error.message}"

/-- What an error came from: the fault of a pattern is one of its own. -/
def SourceError.causes : SourceError → List String
  | .pattern _ error => [error.message]
  | _ => []

namespace StreamArn

/-- The table in `arn:partition:dynamodb:region:account:table/name`, where `/` ends the name if more follows. -/
def tableName? (arn : List Char) : Option (List Char) := do
  let (scheme, rest) ← Text.splitOnce? ':' arn
  let (_, rest) ← Text.splitOnce? ':' rest
  let (service, rest) ← Text.splitOnce? ':' rest
  let (_, rest) ← Text.splitOnce? ':' rest
  let (_, resource) ← Text.splitOnce? ':' rest
  let (kind, rest) ← Text.splitOnce? '/' resource
  let name := rest.takeWhile (· ≠ '/')
  if scheme = "arn".toList ∧ service = "dynamodb".toList ∧ kind = "table".toList ∧ name ≠ [] then some name
  else none

def declaredTableName? (resources : Json) (resource : String) : Option String := do
  let all ← resources.get? "Resources"
  let declaration ← all.get? resource
  let properties ← declaration.get? "Properties"
  match ← properties.get? "TableName" with
  | .string name => some name
  | _ => none

def resolve (tableNames : List (String × String)) (resources : Json) : StreamArn → Except SourceError String
  | .literal arn => match tableName? arn.toList with
    | some name => .ok (String.ofList name)
    | none => .error (.invalidArn arn)
  | .reference key => match Fields.get? key tableNames with
    | some name => .ok name
    | none => .error (.missingTableMapping key)
  | .property resource name =>
    if name ≠ "StreamArn" then .error (.unsupportedProperty resource name)
    else match declaredTableName? resources resource with
      | some table => .ok table
      | none => .error (.missingResourceTableName resource)

end StreamArn

structure Source where
  function : String
  tableName : String
  event : StreamEvent
  filter : DeliveryFilter

structure Candidate where
  function : String
  event : StreamEvent
  filter : DeliveryFilter

namespace StreamEvent

def filter (e : StreamEvent) : Except PatternError DeliveryFilter :=
  DeliveryFilter.ofValues e.filterPatterns

end StreamEvent

namespace Service

def enabledEvents (s : Service) : List (String × StreamEvent) :=
  s.functions.flatMap fun entry => entry.2.enabledStreamEvents.map (entry.1, ·)

def candidate (entry : String × StreamEvent) : Except SourceError Candidate :=
  (entry.2.filter.map fun filter => ⟨entry.1, entry.2, filter⟩).mapError (.pattern entry.1)

def tableOf (s : Service) (tableNames : List (String × String)) (c : Candidate) : Except SourceError String :=
  c.event.arn.resolve tableNames s.resources

def source? (s : Service) (tableNames : List (String × String)) (c : Candidate) : Option Source :=
  (s.tableOf tableNames c).toOption.map fun name => ⟨c.function, name, c.event, c.filter⟩

def skipEvent? (s : Service) (tableNames : List (String × String)) (c : Candidate) : Option Log.Event :=
  match s.tableOf tableNames c with
  | .ok _ => none
  | .error e => some (.streamSkipped c.function c.event.arn.display e.message)

/-- The events up to the first stream whose filter does not decode. -/
def eventsBeforeFault (s : Service) (tableNames : List (String × String)) : List Log.Event :=
  let candidates := s.enabledEvents.map fun entry => (candidate entry).toOption
  ((candidates.takeWhile Option.isSome).filterMap id).filterMap (s.skipEvent? tableNames)

structure Sources where
  sources : List Source
  events : List Log.Event

/-- All streams of a service that have a table. A pattern that does not decode is an error for the service. -/
def streamSources (s : Service) (tableNames : List (String × String)) : Except SourceError Sources := do
  let candidates ← s.enabledEvents.mapM candidate
  return ⟨candidates.filterMap (s.source? tableNames), candidates.filterMap (s.skipEvent? tableNames)⟩

end Service

end ChangeSieve
