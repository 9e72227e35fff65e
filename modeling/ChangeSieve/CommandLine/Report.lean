import ChangeSieve.Json.Writer
import ChangeSieve.Log
import ChangeSieve.Text.Blank
import ChangeSieve.Text.Quoted

/-! The error output: events as lines for people or as JSON lines, and the report of what ended a run. -/
namespace ChangeSieve.CommandLine

def styled (wanted : Bool) (style : Nat) (text : String) : String :=
  if wanted then s!"\x1b[{style}m" ++ text ++ "\x1b[0m" else text

def faint : Nat := 2

def italic : Nat := 3

def levelText : Log.Level → Nat × String
  | .debug => (34, "DEBUG")
  | .info => (32, " INFO")
  | .warn => (33, " WARN")

def valueText : Log.Value → String
  | .count n => toString n
  | .text s => Text.quoted s
  | .plain s => s

def fieldText (wanted : Bool) (field : String × Log.Value) : String :=
  " " ++ styled wanted italic field.1 ++ styled wanted faint "=" ++ valueText field.2

def eventText (wanted : Bool) (e : Log.Event) : String :=
  let (color, level) := levelText e.level
  styled wanted color level ++ " " ++ styled wanted faint e.target ++ styled wanted faint ":" ++ " " ++ e.message ++
    String.join (e.fields.map (fieldText wanted))

def valueJson : Log.Value → Json
  | .count n => .ofNat n
  | .text s => .string s
  | .plain s => .string s

def eventJson (e : Log.Event) : String :=
  let fields := e.fields.map fun field => (field.1, valueJson field.2)
  let fields := Fields.ofList (("message", Json.string e.message) :: fields)
  (Json.object [("fields", .object fields), ("level", .string e.level.name), ("target", .string e.target)]).text

def reportMark : String := "Error: "

def reportLine (message : String) : String := reportMark ++ message

/-- A cause on lines of its own, indented, and numbered if it is one of several. -/
def causeText (number : Option Nat) (cause : String) : String :=
  let lines := (Text.split '\n' cause.toList).map String.ofList
  match number with
  | none => "\n    " ++ "\n    ".intercalate lines
  | some n => "\n" ++ String.ofList ((Nat.toDigits 10 n).leftpad 5 ' ') ++ ": " ++ "\n       ".intercalate lines

/-- What stands after the line about a fault: its causes, the outermost first. -/
def causesText : List String → String
  | [] => ""
  | [cause] => "\n\nCaused by:" ++ causeText none cause
  | causes => "\n\nCaused by:" ++ String.join (causes.mapIdx fun n cause => causeText (some n) cause)

def reportText (message : String) (causes : List String) : String := reportLine message ++ causesText causes

example : reportText "no records" ["line 2: cut\noff", "cut\noff"] =
    "Error: no records\n\nCaused by:\n    0: line 2: cut\n       off\n    1: cut\n       off" := by decide

/-- The first report in an output: the rest of the first line that starts as one. -/
def firstReport? (output : String) : Option String :=
  let mark := reportMark.toList
  ((Text.split '\n' output.toList).find? mark.isPrefixOf).map fun line => String.ofList (line.drop mark.length)

end ChangeSieve.CommandLine
