import ChangeSieve.CommandLine.Run

/-! The program: it reads variables, files and standard input, and prints the outcome of a run. -/
namespace ChangeSieve.CommandLine

def variableNames : List String :=
  ["DEFAULT_REGION", "LOG_LEVEL", "SLS_DEBUG", "STREAM_TABLE_NAMES", "STREAM_BATCH_SIZE", "STREAM_FILTER_PATTERNS",
    "RUST_LOG", "NO_COLOR"]

def Job.paths : Job → List String
  | .filter patterns input => patterns.toList ++ (if input = standardInput then [] else [input])
  | .streams service => [service]

def decodeText (data : ByteArray) : FileState :=
  match String.fromUTF8? data with
  | some content => .text content
  | none => .unreadable "stream did not contain valid UTF-8"

def readPath (path : String) : IO FileState := do
  try
    let data ← IO.FS.readBinFile path
    return decodeText data
  catch e =>
    return match e with
      | .noFileOrDirectory .. => .missing e.toString
      | .noSuchThing .. => .missing e.toString
      | .permissionDenied .. => .missing e.toString
      | _ => .unreadable e.toString

def readStdin : IO FileState := do
  let stream ← IO.getStdin
  let mut data := ByteArray.empty
  let mut more := true
  while more do
    let chunk ← stream.read 65536
    data := data ++ chunk
    more := !chunk.isEmpty
  return decodeText data

def plainWording : Wording where
  json _ := "malformed JSON"
  service _ := "malformed service definition"
  logFilter _ := ["invalid filter directive"]

def gather (assigned : List (String × String)) (invocation : Invocation) : IO Surroundings := do
  let files ← invocation.job.paths.mapM fun path => do
    let state ← readPath path
    return (path, state)
  let stdin ← match invocation.job with
    | .filter _ input => if input = standardInput then readStdin else pure (.text "")
    | .streams _ => pure (.text "")
  return {
    env name := assigned.lookup name
    file path := (files.lookup path).getD (.missing "not read")
    stdin := stdin
    order := .sorted
    wording := plainWording }

end ChangeSieve.CommandLine

section
open ChangeSieve CommandLine
attribute [local instance] Json.FloatReading.nearest

/-- Runs the program: records go to standard output, everything else to the error output. -/
def main (args : List String) : IO UInt32 := do
  let assigned ← variableNames.filterMapM fun name => do
    let value ← IO.getEnv name
    return value.map (name, ·)
  let outcome ← match parse (fun name => assigned.lookup name) args with
    | .error stop => pure (Outcome.ofStop stop)
    | .ok invocation => do
      let surroundings ← gather assigned invocation
      pure (Outcome.ofInvocation surroundings invocation)
  IO.eprint outcome.stderr
  IO.print outcome.stdout
  return outcome.exit.toUInt32

end
