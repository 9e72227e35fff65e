import ChangeSieve.Number.Decimal
import ChangeSieve.Number.Word
import ChangeSieve.Regex.Support

/-!
Log directives: a level, or a target, a span and its fields with a level. White space around a directive decides nothing
about its form, but its parts are cut out of the whole text at the byte positions of the text without that space.
-/
namespace ChangeSieve

/-- How much is reported: from 0, nothing, to 5, everything. -/
abbrev Verbosity := Nat

/-- The verbosity that a word or a digit names, in any letter case. -/
def Verbosity.ofText? (cs : List Char) : Option Verbosity :=
  match Word.ofText? cs with
  | some n => if n ≤ 5 then some n else none
  | none =>
    match String.ofList (cs.map Char.toLower) with
    | "off" => some 0
    | "error" => some 1
    | "warn" => some 2
    | "info" => some 3
    | "debug" => some 4
    | "trace" => some 5
    | _ => none

structure LogField where
  name : List Char
  isTested : Bool
  deriving DecidableEq, Repr

structure LogDirective where
  target : Option (List Char)
  span : Option (List Char)
  fields : List LogField
  level : Verbosity
  deriving DecidableEq, Repr

namespace LogDirective

/-- Why a text is no directive; the last fault is a cut inside a character. -/
inductive Fault where
  | form
  | level
  | fieldValue
  | brokenCharacter
  deriving DecidableEq, Repr

def Fault.message : Fault → String
  | .form => "invalid filter directive"
  | .level =>
    "error parsing level filter: expected one of \"off\", \"error\", \"warn\", \"info\", \"debug\", \"trace\", " ++
      "or a number 0-5"
  | .fieldValue => "invalid field filter: error building NFA"
  | .brokenCharacter => "a part of the filter starts or ends inside a character"

def splitAt? : Nat → List Char → Option (List Char × List Char)
  | 0, cs => some ([], cs)
  | _ + 1, [] => none
  | n + 1, c :: rest =>
    if n + 1 < c.utf8Size then none
    else (splitAt? (n + 1 - c.utf8Size) rest).map fun (before, after) => (c :: before, after)

def tail (cs : List Char) (first : Nat) : Except Fault (List Char) :=
  match splitAt? first cs with
  | some (_, after) => .ok after
  | none => .error .brokenCharacter

def slice (cs : List Char) (first last : Nat) : Except Fault (List Char) := do
  let after ← tail cs first
  match splitAt? (last - first) after with
  | some (part, _) => return part
  | none => .error .brokenCharacter

/-- What the value of a field is tested against: a flag, a number, or a regular expression. -/
def isTest (cs : List Char) : Bool := (Double.ofText? cs).isSome || Regex.isSupported cs

/-- Reads a field: its name, and a test after an equals sign. -/
def field (cs : List Char) : Except Fault LogField :=
  match Text.split '=' cs with
  | name :: value :: _ => if isTest value then .ok ⟨name, true⟩ else .error .fieldValue
  | _ => .ok ⟨cs, false⟩

/-- What is read at a place of a directive, with the position where the part began. -/
inductive Place where
  | start
  | word
  | span (first : Nat)
  | field (first : Nat)
  | afterFields
  | afterSpan
  | level (first : Nat)
  deriving DecidableEq, Repr

structure Progress where
  place : Place
  read : LogDirective
  deriving DecidableEq, Repr

/-- Nothing read: such a directive reports everything. -/
def Progress.initial : Progress := ⟨.start, ⟨none, none, [], 5⟩⟩

def startsTarget (c : Char) : Bool := Text.isAlphanumeric c || c ∈ ['-', ':', '_']

/-- Reads the character at a position; parts are cut out of `text`. -/
def step (text : List Char) (position : Nat) (c : Char) (p : Progress) : Except Fault Progress :=
  match p.place with
  | .start =>
    if c = '[' then .ok { p with place := .span (position + 1) }
    else if startsTarget c then .ok { p with place := .word }
    else .error .form
  | .word =>
    if c = '=' then do
      let target ← slice text 0 position
      return ⟨.level (position + 1), { p.read with target := some target }⟩
    else if c = '[' then do
      let target ← slice text 0 position
      return ⟨.span (position + 1), { p.read with target := some target }⟩
    else .ok p
  | .span first =>
    if c = ']' then do
      let span ← slice text first position
      return ⟨.afterSpan, { p.read with span := some span }⟩
    else if c = '{' then do
      let span ← slice text first position
      return ⟨.field (position + 1), { p.read with span := if span = [] then none else some span }⟩
    else .ok p
  | .field first =>
    if c = '}' then do
      let part ← slice text first position
      if part = [] then .error .form
      else do
        let f ← field part
        return ⟨.afterFields, { p.read with fields := p.read.fields ++ [f] }⟩
    else .ok p
  | .afterFields => if c = ']' then .ok { p with place := .afterSpan } else .error .form
  | .afterSpan => if c = '=' then .ok { p with place := .level (position + 1) } else .error .form
  | .level _ => .ok p

def steps (text : List Char) (position : Nat) (p : Progress) : List Char → Except Fault Progress
  | [] => .ok p
  | c :: rest =>
    match step text position c p with
    | .ok p => steps text (position + c.utf8Size) p rest
    | .error fault => .error fault

/-- The directive at the end of a text. A single word is a level if it names one, and else a target. -/
def finish (text : List Char) (p : Progress) : Except Fault LogDirective :=
  match p.place with
  | .word =>
    match Verbosity.ofText? text with
    | some level => .ok { p.read with level := level }
    | none => .ok { p.read with target := some text }
  | .level first => do
    let part ← tail text first
    if part = [] then return p.read
    else match Verbosity.ofText? part with
      | some level => return { p.read with level := level }
      | none => .error .level
  | .afterSpan => .ok p.read
  | _ => .error .form

/-- Reads a directive, which holds no comma. -/
def ofText (text : List Char) : Except Fault LogDirective := do
  let p ← steps text 0 .initial (Text.trim text)
  finish text p

def isStatic (d : LogDirective) : Bool := d.span.isNone && d.fields.all fun f => !f.isTested

/-- Says whether a directive bears on an event from a target with the given fields. -/
def concerns (d : LogDirective) (target : String) (fields : List String) : Bool :=
  d.isStatic && (d.target.getD []).isPrefixOf target.toList &&
    d.fields.all fun f => String.ofList f.name ∈ fields

/-- Orders directives by the length of the target, and then by the number of fields. -/
def isAtLeastAsSpecific (d e : LogDirective) : Bool :=
  let size (d : LogDirective) : Nat := match d.target with
    | some target => target.length + 1
    | none => 0
  size e < size d || (size e == size d && e.fields.length ≤ d.fields.length)

end LogDirective

end ChangeSieve
