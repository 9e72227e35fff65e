import ChangeSieve.Settings

/-! Command line arguments: options of the program and of its commands, read from left to right. -/
namespace ChangeSieve.CommandLine

inductive Flag where
  | batchSize
  | logJson
  | patterns
  | input
  | service
  | help
  | version
  deriving DecidableEq, Repr

namespace Flag

def long : Flag → String
  | .batchSize => "batch-size"
  | .logJson => "log-json"
  | .patterns => "patterns"
  | .input => "input"
  | .service => "service"
  | .help => "help"
  | .version => "version"

def short? : Flag → Option Char
  | .batchSize => none
  | .logJson => none
  | .patterns => some 'p'
  | .input => some 'i'
  | .service => some 's'
  | .help => some 'h'
  | .version => some 'V'

def takesValue : Flag → Bool
  | .batchSize => true
  | .patterns => true
  | .input => true
  | .service => true
  | _ => false

def acceptsValue : Flag → String → Bool
  | .batchSize, value => (Word.positive? value.toList).isSome
  | _, value => value ≠ ""

end Flag

def globalFlags : List Flag := [.batchSize, .logJson, .help, .version]

inductive Command where
  | filter
  | streams
  deriving DecidableEq, Repr

/-- Options after a command; those of the program may stand there too. -/
def Command.flags : Command → List Flag
  | .filter => [.patterns, .input, .batchSize, .logJson, .help]
  | .streams => [.service, .batchSize, .logJson, .help]

def Command.ofName? : String → Option Command
  | "filter" => some .filter
  | "streams" => some .streams
  | _ => none

inductive Stop where
  | usage
  | help
  | version
  deriving DecidableEq, Repr

abbrev Given := List (Flag × String)

def give (given : Given) (flag : Flag) (value : String) : Except Stop Given :=
  if (given.lookup flag).isSome ∨ (flag.takesValue ∧ ¬flag.acceptsValue value) then .error .usage
  else .ok ((flag, value) :: given)

inductive Argument where
  | plain (text : String)
  | separator
  | option (flag : Flag) (attached : Option String)
  | unknown

/-- Recognizes `--name`, `--name=value`, `-n`, `-nvalue` and `-n=value` among the options of a level. -/
def Argument.ofText (flags : List Flag) (text : String) : Argument :=
  match text.toList with
  | '-' :: '-' :: [] => .separator
  | '-' :: '-' :: body =>
    let name := String.ofList (body.takeWhile (· ≠ '='))
    let attached := match body.dropWhile (· ≠ '=') with
      | [] => none
      | _ :: value => some (String.ofList value)
    match flags.find? fun flag => flag.long == name with
    | some flag => .option flag attached
    | none => .unknown
  | '-' :: c :: rest =>
    let attached := match rest with
      | [] => none
      | '=' :: value => some (String.ofList value)
      | value => some (String.ofList value)
    match flags.find? fun flag => flag.short? == some c with
    | some flag => .option flag attached
    | none => .unknown
  | _ => .plain text

/-- A value that stands alone must not look like an option; a single dash does not. -/
def standsAlone (value : String) : Bool :=
  match value.toList with
  | '-' :: _ :: _ => false
  | _ => true

def hasExcessValue (text : String) (attached : Option String) : Bool :=
  ['-', '-'].isPrefixOf text.toList && attached.isSome

/-- Reads options up to the first other argument; the arguments from there on are left. -/
def scan (flags : List Flag) (given : Given) : List String → Except Stop (Given × List String)
  | [] => .ok (given, [])
  | text :: rest =>
    match Argument.ofText flags text with
    | .plain _ => .ok (given, text :: rest)
    | .separator => if rest = [] then .ok (given, []) else .error .usage
    | .unknown => .error .usage
    | .option flag attached =>
      if flag.takesValue then
        match attached, rest with
        | some value, rest => do
          let given ← give given flag value
          scan flags given rest
        | none, value :: rest =>
          if standsAlone value then do
            let given ← give given flag value
            scan flags given rest
          else .error .usage
        | none, [] => .error .usage
      else if hasExcessValue text attached then .error .usage
      else if flag = .help then .error .help
      else if flag = .version then .error .version
      else do
        let given ← give given flag ""
        scan flags given rest

inductive Job where
  | filter (patterns : Option String) (input : String)
  | streams (service : String)
  deriving DecidableEq, Repr

structure Invocation where
  job : Job
  batchSize : Option Nat
  logJson : Bool
  deriving DecidableEq, Repr

def standardInput : String := "-"

/-- The job of a command with its options; a variable may name the pattern file. -/
def Command.job (env : String → Option String) (given : Given) : Command → Except Stop Job
  | .filter =>
    let input := (given.lookup .input).getD standardInput
    match given.lookup .patterns, env "STREAM_FILTER_PATTERNS" with
    | some path, _ => .ok (.filter (some path) input)
    | none, some path => if path = "" then .error .usage else .ok (.filter (some path) input)
    | none, none => .ok (.filter none input)
  | .streams => match given.lookup .service with
    | some path => .ok (.streams path)
    | none => .error .usage

/-- What stands for the help command: the names of a command or nothing. -/
def helpStop : List String → Stop
  | [] => .help
  | [name] => if (Command.ofName? name).isSome ∨ name = "help" then .help else .usage
  | _ => .usage

/-- Reads the arguments of the program. An option after the command wins over the same one before it. -/
def parse (env : String → Option String) (args : List String) : Except Stop Invocation := do
  let (before, rest) ← scan globalFlags [] args
  match rest with
  | [] => .error .usage
  | name :: rest =>
    if name = "help" then .error (helpStop rest)
    else match Command.ofName? name with
      | none => .error .usage
      | some command => do
        let (given, rest) ← scan command.flags [] rest
        if rest ≠ [] then .error .usage
        else do
          let job ← command.job env given
          let all := given ++ before
          return {
            job := job
            batchSize := (all.lookup .batchSize).bind fun value => Word.positive? value.toList
            logJson := (all.lookup .logJson).isSome }

end ChangeSieve.CommandLine
