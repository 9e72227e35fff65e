import ChangeSieve.CommandLine.Arguments
import ChangeSieve.CommandLine.LogFilter
import ChangeSieve.CommandLine.Report
import ChangeSieve.Record.Framing
import ChangeSieve.Record.Order
import ChangeSieve.Service.Document
import ChangeSieve.Service.Source

/-! The commands as functions of arguments, variables, files and standard input. -/
namespace ChangeSieve.CommandLine

/-- What is found under a path: a text, something that opens but is no text, or nothing that opens; with the reason. -/
inductive FileState where
  | text (content : String)
  | unreadable (reason : String)
  | missing (reason : String)

/-- The words of libraries about a text that they cannot read. A report passes them on. -/
structure Wording where
  json : String → String
  service : String → String
  logFilter : String → List String

structure Surroundings where
  env : String → Option String
  file : String → FileState
  stdin : FileState
  order : MapOrder
  wording : Wording

inductive Failure where
  | brokenLogFilter
  | invalidLogFilter (text : String)
  | unreadableFile (path reason : String)
  | invalidPatterns (path : String) (error : Pattern.TextError)
  | missingInput (path reason : String)
  | unreadableRecords (reason : String)
  | invalidRecords (error : Record.FramingError)
  | invalidService (path text : String)
  | source (error : SourceError)

namespace Failure

/-- The exit code of a fault. A log filter that cannot be cut into its parts stops the program at once. -/
def exit : Failure → Nat
  | .brokenLogFilter => 101
  | _ => 1

def message : Failure → String
  | .brokenLogFilter => LogDirective.Fault.brokenCharacter.message
  | .invalidLogFilter text => "invalid log level filter: " ++ text
  | .unreadableFile path _ => "failed to read " ++ path
  | .invalidPatterns path _ => "invalid filter patterns in " ++ path
  | .missingInput path _ => "failed to open " ++ path
  | .unreadableRecords _ => "failed to read records"
  | .invalidRecords _ => "failed to decode records"
  | .invalidService path _ => "invalid service definition " ++ path
  | .source error => error.message

/-- What a fault came from, the outermost cause first. -/
def causes (wording : Wording) : Failure → List String
  | .brokenLogFilter => []
  | .invalidLogFilter text => wording.logFilter text
  | .unreadableFile _ reason => [reason]
  | .invalidPatterns _ error => error.chain wording.json
  | .missingInput _ reason => [reason]
  | .unreadableRecords reason => [reason]
  | .invalidRecords error => error.chain wording.json
  | .invalidService _ text => [wording.service text]
  | .source error => error.causes

def report (wording : Wording) : Failure → String
  | .brokenLogFilter => Failure.brokenLogFilter.message
  | failure => reportText failure.message (failure.causes wording)

end Failure

/-- What a run has done so far: the events that it reported, and the text that it printed. -/
structure Transcript where
  events : List Log.Event
  stdout : String

def Transcript.blank : Transcript := ⟨[], ""⟩

/-- A part of a run. It adds to the transcript, and a fault ends the run but leaves the transcript as it is. -/
abbrev Work := EStateM Failure Transcript

namespace Work

def ofExcept {α : Type} : Except Failure α → Work α
  | .ok a => pure a
  | .error failure => throw failure

def report (event : Log.Event) : Work Unit := modify fun t => { t with events := t.events ++ [event] }

def print (text : String) : Work Unit := modify fun t => { t with stdout := t.stdout ++ text }

end Work

def readFile (s : Surroundings) (path : String) : Except Failure String :=
  match s.file path with
  | .text content => .ok content
  | .unreadable reason => .error (.unreadableFile path reason)
  | .missing reason => .error (.unreadableFile path reason)

def readInput (s : Surroundings) (path : String) : Except Failure String :=
  match if path = standardInput then s.stdin else s.file path with
  | .text content => .ok content
  | .unreadable reason => .error (.unreadableRecords reason)
  | .missing reason => .error (.missingInput path reason)

section Jobs
variable [Json.FloatReading]

/-- The filter in a pattern file; without a file everything passes. -/
def loadFilter (s : Surroundings) : Option String → Except Failure DeliveryFilter
  | none => .ok .passAll
  | some path => do
    let text ← readFile s path
    (DeliveryFilter.ofText text).mapError (.invalidPatterns path)

/-- The records of the input, as they lie in memory. -/
def readRecords (s : Surroundings) (path : String) : Except Failure (List Record) := do
  let text ← readInput s path
  ((Record.allOfText text).map s.order.arrange).mapError .invalidRecords

/-- Reports on batches and prints what they keep, one after the other; returns how many records were printed. -/
def deliverBatches (filter : DeliveryFilter) : List (List Record) → Work Nat
  | [] => return 0
  | batch :: rest => do
    (filter.batchEvents batch).forM Work.report
    (filter.keep batch).forM fun r => Work.print r.line
    let count ← deliverBatches filter rest
    return (filter.keep batch).length + count

def runFilter (s : Surroundings) (settings : Settings) (patterns : Option String) (input : String) : Work Unit := do
  let filter ← Work.ofExcept (loadFilter s patterns)
  Work.report (.filterStarted filter.patterns.length settings.batchSize)
  let records ← Work.ofExcept (readRecords s input)
  -- nothing can fail from here on
  let count ← deliverBatches filter (batches settings.batchSize records)
  Work.report (.filterDone count)

def sourceLine (settings : Settings) (source : Source) : Json :=
  .object [
    ("batchSize", .ofNat (source.event.batchSize.getD settings.batchSize)),
    ("filterPatterns", .ofNat source.filter.patterns.length),
    ("function", .string source.function),
    ("region", .string settings.defaultRegion),
    ("startingPosition", .string (source.event.startingPosition.getD .latest).name),
    ("tableName", .string source.tableName)]

def loadService (s : Surroundings) (path : String) : Except Failure Service := do
  let text ← readFile s path
  match Service.ofText? text with
  | some service => return service
  | none => .error (.invalidService path text)

/-- The sources of a service. A stream without a table is reported and passed over. -/
def findSources (settings : Settings) (service : Service) : Work (List Source) :=
  match service.streamSources settings.tableNames with
  | .error e => do
    (service.eventsBeforeFault settings.tableNames).forM Work.report
    throw (.source e)
  | .ok found => do
    found.events.forM Work.report
    return found.sources

def runStreams (s : Surroundings) (settings : Settings) (path : String) : Work Unit := do
  let service ← Work.ofExcept (loadService s path)
  let sources ← findSources settings service
  sources.forM fun source => Work.print ((sourceLine settings source).text ++ "\n")
  Work.report (.sourcesResolved sources.length)

def runJob (s : Surroundings) (settings : Settings) : Job → Work Unit
  | .filter patterns input => runFilter s settings patterns input
  | .streams service => runStreams s settings service

end Jobs

/-- The directives of a run, and notices about those that are not used. -/
structure LogSetup where
  notices : List String
  directives : Except Failure (List LogDirective)

/-- The log filter of the settings has to be valid, unless another variable stands in for it. -/
def logSetup (s : Surroundings) (settings : Settings) : LogSetup :=
  match s.env "RUST_LOG" with
  | some text =>
    let filter := LogFilter.Lenient.ofText text
    ⟨filter.notices, if filter.isIntact then .ok filter.directives else .error .brokenLogFilter⟩
  | none =>
    match LogFilter.ofText settings.logLevel with
    | .ok directives => ⟨[], .ok directives⟩
    | .error .brokenCharacter => ⟨[], .error .brokenLogFilter⟩
    | .error _ => ⟨[], .error (.invalidLogFilter settings.logLevel)⟩

/-- The settings of a run: from the variables, with the batch size of the arguments if they give one. -/
def settingsFor (s : Surroundings) (invocation : Invocation) : Settings :=
  let settings := (Settings.ofLookup s.env).settings
  { settings with batchSize := invocation.batchSize.getD settings.batchSize }

structure Outcome where
  exit : Nat
  stdout : String
  stderr : String

def versionText : String := "streamfilter 0.3.0\n"

def usageText : String :=
  "Usage: streamfilter [--batch-size N] [--log-json] <COMMAND>\n\n" ++
  "Commands:\n" ++
  "  filter   [-p, --patterns FILE] [-i, --input FILE]\n" ++
  "  streams  -s, --service FILE\n"

def Outcome.ofStop : Stop → Outcome
  | .usage => ⟨2, "", usageText⟩
  | .help => ⟨0, usageText, ""⟩
  | .version => ⟨0, versionText, ""⟩

/-- The outcome of work, with the lines about what happened and the report of the fault that ended it. -/
def Outcome.ofResult (wording : Wording) (lines : Transcript → List String) :
    EStateM.Result Failure Transcript Unit → Outcome
  | .ok _ t => ⟨0, t.stdout, String.join ((lines t).map (· ++ "\n"))⟩
  | .error failure t => ⟨failure.exit, t.stdout, String.join ((lines t ++ [failure.report wording]).map (· ++ "\n"))⟩

def logLines (s : Surroundings) (invocation : Invocation) (notices : List String) (directives : List LogDirective)
    (t : Transcript) : List String :=
  let eventLine := if invocation.logJson then eventJson else eventText ((s.env "NO_COLOR").getD "" = "")
  notices ++ (t.events.filter (LogFilter.enables directives)).map eventLine

variable [Json.FloatReading]

/-- Does the work of an invocation, unless its log filter is at fault. -/
def Outcome.ofInvocation (s : Surroundings) (invocation : Invocation) : Outcome :=
  let settings := settingsFor s invocation
  let setup := logSetup s settings
  match setup.directives with
  | .error failure => .ofResult s.wording (fun _ => setup.notices) (.error failure .blank)
  | .ok directives =>
    .ofResult s.wording (logLines s invocation setup.notices directives)
      ((runJob s settings invocation.job).run .blank)

def run (s : Surroundings) (args : List String) : Outcome :=
  match parse s.env args with
  | .error stop => .ofStop stop
  | .ok invocation => .ofInvocation s invocation

end ChangeSieve.CommandLine
