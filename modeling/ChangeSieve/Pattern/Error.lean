import ChangeSieve.Base64
import ChangeSieve.Json.Writer
import ChangeSieve.Pattern.Basic

/-! Faults of filter patterns and their messages. -/
namespace ChangeSieve

inductive RuleFault where
  | nestedArray
  | excludedMember
  | noExcluded
  | excludedValue
  | numericNotArray
  | numericLength (length : Nat)
  | operatorNotString (found : Json)
  | operandNotNumber (found : Json)
  | presenceNotBoolean
  | startNotString

def RuleFault.rule : RuleFault → String
  | .nestedArray => "literal"
  | .excludedMember => "anything-but"
  | .noExcluded => "anything-but"
  | .excludedValue => "anything-but"
  | .numericNotArray => "numeric"
  | .numericLength _ => "numeric"
  | .operatorNotString _ => "numeric"
  | .operandNotNumber _ => "numeric"
  | .presenceNotBoolean => "exists"
  | .startNotString => "prefix"

def RuleFault.message : RuleFault → String
  | .nestedArray => "nested arrays are not supported"
  | .excludedMember => "values must be strings, numbers or booleans"
  | .noExcluded => "value list is empty"
  | .excludedValue => "value must be a literal or a list of literals"
  | .numericNotArray => "value must be an array"
  | .numericLength length => s!"expected 2 or 4 elements, found {length}"
  | .operatorNotString found => s!"operator must be a string, found {found.text}"
  | .operandNotNumber found => s!"operand must be a number, found {found.text}"
  | .presenceNotBoolean => "value must be a boolean"
  | .startNotString => "value must be a string"

inductive TypedFault where
  | wrongMember (expected : String) (found : Json)
  | notANumber (found : Json)
  | notBase64 (text : String) (error : Base64.Error)
  | noAlternatives
  | notANullMarker (found : Json)

def TypedFault.message : TypedFault → String
  | .wrongMember expected found => s!"expected {expected}, found {found.kind.name} {found.text}"
  | .notANumber found => s!"'{found.text}' is not a valid number"
  | .notBase64 text error => s!"'{text}' is not valid base64: {error.message}"
  | .noAlternatives => "no alternatives"
  | .notANullMarker found => "expected \"\" or true, found " ++ found.text

/-- Why a JSON value is no pattern. The path holds the keys that lead to the faulty node. -/
inductive PatternError where
  | notAnObject (path : List String) (found : Json.Kind)
  | emptyObject (path : List String)
  | invalidLeaf (path : List String) (found : Json.Kind)
  | emptyRuleList (path : List String)
  | unknownRule (path : List String) (key : String)
  | ambiguousRule (path : List String) (keys : List String)
  | invalidRule (path : List String) (fault : RuleFault)
  | unknownOperator (path : List String) (operator : String)
  | invalidTypedFilter (path : List String) (descriptor : Descriptor) (fault : TypedFault)

/-- Keys with dots between them, or the name of the root. -/
def pathText (path : List String) : String :=
  if path = [] then "<root>" else ".".intercalate path

def PatternError.message : PatternError → String
  | .notAnObject path found => s!"Pattern at {pathText path} must be an object, found {found.name}"
  | .emptyObject path => s!"Pattern at {pathText path} is an empty object"
  | .invalidLeaf path found =>
    s!"Filter at {pathText path} must be an array or a typed container, found {found.name}"
  | .emptyRuleList path => s!"Filter at {pathText path} has no alternatives"
  | .unknownRule path key => s!"Unknown rule '{key}' at {pathText path}"
  | .ambiguousRule path keys =>
    s!"Rule at {pathText path} must have exactly one key, found [" ++ ", ".intercalate keys ++ "]"
  | .invalidRule path fault => s!"Invalid '{fault.rule}' rule at {pathText path}: {fault.message}"
  | .unknownOperator path operator => s!"Unknown numeric operator '{operator}' at {pathText path}"
  | .invalidTypedFilter path descriptor fault =>
    s!"Invalid {descriptor.name} filter at {pathText path}: {fault.message}"

end ChangeSieve
