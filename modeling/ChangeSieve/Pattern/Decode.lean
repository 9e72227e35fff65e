import ChangeSieve.Json.Content
import ChangeSieve.Pattern.Error
import ChangeSieve.Text.Position

/-! Reading filter patterns from JSON values. -/
namespace ChangeSieve

namespace Literal

def decode? : Json → Option Literal
  | .string s => some (.string s)
  | .number n => some (.number n.toDouble)
  | .boolean b => some (.boolean b)
  | _ => none

end Literal

namespace TypedFilter

/-- Says whether a value may be an alternative of a typed filter; any other member makes the list a rule list. -/
def isScalar : Json → Bool
  | .string _ => true
  | .number _ => true
  | .boolean _ => true
  | _ => false

/-- Decodes the alternatives; the type of each is looked at before any is decoded. -/
def options {α : Type} (expected : String) (accepts : Json → Bool) (decode : Json → Except TypedFault α)
    (items : List Json) : Except TypedFault (List α) :=
  match items.find? fun v => !accepts v with
  | some v => .error (.wrongMember expected v)
  | none => items.mapM decode

def isText (v : Json) : Bool := v.kind == .string

def isTextOrNumber (v : Json) : Bool := v.kind == .string || v.kind == .number

def isBoolean (v : Json) : Bool := v.kind == .boolean

def stringOption : Json → Except TypedFault String
  | .string s => .ok s
  | v => .error (.wrongMember "strings" v)

def numberOption : Json → Except TypedFault Double
  | .number n => .ok n.toDouble
  | .string s => match Attribute.numberOfText? s with
    | some d => .ok d
    | none => .error (.notANumber (.string s))
  | v => .error (.notANumber v)

def binaryOption : Json → Except TypedFault (List UInt8)
  | .string s => (Base64.decode s).mapError (.notBase64 s)
  | v => .error (.wrongMember "base64 strings" v)

def booleanOption : Json → Except TypedFault Bool
  | .boolean b => .ok b
  | v => .error (.wrongMember "booleans" v)

/-- Reads a list of scalars under the key of a type; the sets, lists and maps have no typed filters. -/
def decodeList? (d : Descriptor) (items : List Json) : Except TypedFault (Option TypedFilter) := do
  let filter ← match d with
    | .string => (options "strings" isText stringOption items).map (some ∘ .strings)
    | .number => (options "numbers" isTextOrNumber numberOption items).map (some ∘ .numbers)
    | .binary => (options "base64 strings" isText binaryOption items).map (some ∘ .binaries)
    | .boolean => (options "booleans" isBoolean booleanOption items).map (some ∘ .booleans)
    | _ => .ok none
  if filter.isSome ∧ items = [] then .error .noAlternatives else .ok filter

/-- Reads what stands under the key of a type; `none` says that it is no typed filter but a node of that name. -/
def decodeContent? : Descriptor → Json → Except TypedFault (Option TypedFilter)
  | .null, .string s => if s = "" then .ok (some .null) else .error (.notANullMarker (.string s))
  | .null, .boolean b => if b then .ok (some .null) else .error (.notANullMarker (.boolean b))
  | .null, .number n => .error (.notANullMarker (.number n))
  | d, .array items => if items.all isScalar then decodeList? d items else .ok none
  | _, _ => .ok none

def decode? (path : List String) : List (String × Json) → Except PatternError (Option TypedFilter)
  | [(key, content)] =>
    match Descriptor.ofName? key with
    | some d => (decodeContent? d content).mapError (.invalidTypedFilter path d)
    | none => .ok none
  | _ => .ok none

end TypedFilter

namespace Rule

def decodeComparison (path : List String) (operator operand : Json) : Except PatternError Comparison :=
  match operator with
  | .string symbol =>
    match Operator.ofSymbol? symbol with
    | none => .error (.unknownOperator path symbol)
    | some op => match operand with
      | .number n => .ok ⟨op, n.toDouble⟩
      | v => .error (.invalidRule path (.operandNotNumber v))
  | v => .error (.invalidRule path (.operatorNotString v))

def decodeNumeric (path : List String) : Json → Except PatternError NumericRule
  | .array [op, operand] => do
    let c ← decodeComparison path op operand
    return .single c
  | .array [op, operand, op', operand'] => do
    let c ← decodeComparison path op operand
    let d ← decodeComparison path op' operand'
    return .range c d
  | .array items => .error (.invalidRule path (.numericLength items.length))
  | _ => .error (.invalidRule path .numericNotArray)

def decodeExcluded : Json → Except RuleFault (List Literal)
  | .array [] => .error .noExcluded
  | .array items => items.mapM fun v => match Literal.decode? v with
    | some literal => .ok literal
    | none => .error .excludedMember
  | v => match Literal.decode? v with
    | some literal => .ok [literal]
    | none => .error .excludedValue

def decodeNamed (path : List String) (key : String) (argument : Json) : Except PatternError Rule :=
  if key = "anything-but" then ((decodeExcluded argument).map .anythingBut).mapError (.invalidRule path)
  else if key = "numeric" then (decodeNumeric path argument).map .numeric
  else if key = "exists" then match argument with
    | .boolean b => .ok (.presence b)
    | _ => .error (.invalidRule path .presenceNotBoolean)
  else if key = "prefix" then match argument with
    | .string s => .ok (.startsWith s)
    | _ => .error (.invalidRule path .startNotString)
  else .error (.unknownRule path key)

def decode (path : List String) : Json → Except PatternError Rule
  | .null => .ok .null
  | .string s => .ok (if s = "" then .empty else .equals (.string s))
  | .number n => .ok (.equals (.number n.toDouble))
  | .boolean b => .ok (.equals (.boolean b))
  | .array _ => .error (.invalidRule path .nestedArray)
  | .object [(key, argument)] => decodeNamed path key argument
  | .object members => .error (.ambiguousRule path (members.map Prod.fst))

/-- Reads a list of rules, which must not be empty. -/
def decodeList (path : List String) (items : List Json) : Except PatternError (List Rule) :=
  if items = [] then .error (.emptyRuleList path) else items.mapM (decode path)

end Rule

namespace Pattern

mutual

/-- Reads the node at a path: a rule list, a typed filter, or nodes under keys. -/
def Node.decode (path : List String) : Json → Except PatternError Node
  | .array items => do
    let rules ← Rule.decodeList path items
    return .leaf (.rules rules)
  | .object members => do
    match ← TypedFilter.decode? path members with
    | some filter => return .leaf (.typed filter)
    | none =>
      if members.isEmpty then .error (.emptyObject path)
      else do
        let children ← decodeChildren path members
        return .object children
  | v => .error (.invalidLeaf path v.kind)
  termination_by structural value => value

def decodeChildren (path : List String) : List (String × Json) → Except PatternError (List (String × Node))
  | [] => .ok []
  | (key, v) :: rest => do
    let node ← Node.decode (path ++ [key]) v
    let children ← decodeChildren path rest
    return (key, node) :: children
  termination_by structural members => members

end

/-- Reads a pattern, whose root is never a typed filter. -/
def decode : Json → Except PatternError Pattern
  | .object members =>
    if members.isEmpty then .error (.emptyObject [])
    else (decodeChildren [] members).map Pattern.mk
  | v => .error (.notAnObject [] v.kind)

def decodeMany : Json → Except PatternError (List Pattern)
  | .array items => items.mapM decode
  | v => (decode v).map ([·])

/-- Why a text holds no patterns: it is no JSON text, or its value is no pattern. -/
inductive TextError where
  | text (error : Json.ReadError) (read : String)
  | pattern (error : PatternError)

/-- The message, and the words of the reader about a text that is no JSON value as the cause of it. -/
def TextError.chain (words : String → String) : TextError → List String
  | .text _ read => ["Invalid pattern JSON: " ++ words read, words read]
  | .pattern error => [error.message]

def readAs {α : Type} [Json.FloatReading] (decode : Json → Except PatternError α) (text : String) :
    Except TextError α :=
  match Json.read text with
  | .error e => .error (.text e text)
  | .ok v => (decode v).mapError .pattern

def ofText [Json.FloatReading] (text : String) : Except TextError Pattern := readAs decode text

inductive ListError where
  | content (error : ContentError)
  | pattern (error : PatternError)

/-- In a list, a path that ends as a position does is read as one. -/
def ListError.message : ListError → String
  | .content error => error.message
  | .pattern error => Text.Position.restate error.message

/-- Reads an array of patterns and nothing else. -/
def decodeList (v : Json) : Except ListError (List Pattern) := do
  let items ← v.asItems.mapError .content
  items.mapM fun item => (decode item).mapError .pattern

end Pattern

end ChangeSieve
