import ChangeSieve.Attribute.Basic

/-! Filter patterns: trees of constraints on the attributes of a change record. -/
namespace ChangeSieve

inductive TypedFilter where
  | strings (options : List String)
  | numbers (options : List Double)
  | binaries (options : List (List UInt8))
  | booleans (options : List Bool)
  | null

def TypedFilter.descriptor : TypedFilter → Descriptor
  | .strings _ => .string
  | .numbers _ => .number
  | .binaries _ => .binary
  | .booleans _ => .boolean
  | .null => .null

inductive Literal where
  | string (text : String)
  | number (value : Double)
  | boolean (value : Bool)

inductive Operator where
  | equal
  | less
  | atMost
  | greater
  | atLeast
  deriving DecidableEq, Repr

def Operator.symbol : Operator → String
  | .equal => "="
  | .less => "<"
  | .atMost => "<="
  | .greater => ">"
  | .atLeast => ">="

def Operator.ofSymbol? (symbol : String) : Option Operator :=
  [.equal, .less, .atMost, .greater, .atLeast].find? fun op => op.symbol == symbol

structure Comparison where
  operator : Operator
  operand : Double

/-- One bound, or two that must both hold. -/
inductive NumericRule where
  | single (bound : Comparison)
  | range (first second : Comparison)

inductive Rule where
  | null
  | empty
  | equals (literal : Literal)
  | anythingBut (literals : List Literal)
  | numeric (rule : NumericRule)
  | presence (wanted : Bool)
  | startsWith (start : String)

inductive Filter where
  | typed (filter : TypedFilter)
  | rules (rules : List Rule)

/-- A node of a pattern: a filter, or nodes under keys that must all hold. -/
inductive Pattern.Node where
  | leaf (filter : Filter)
  | object (children : List (String × Pattern.Node))

/-- A pattern: nodes under the keys of a change record that must all hold. -/
structure Pattern where
  root : List (String × Pattern.Node)

def Literal.display : Literal → String
  | .string s => Text.quoted s
  | .number d => String.ofList d.plainText
  | .boolean b => toString b

def Comparison.display (c : Comparison) : String := c.operator.symbol ++ " " ++ String.ofList c.operand.plainText

def Rule.display : Rule → List String
  | .equals literal => [literal.display]
  | .anythingBut literals => literals.map Literal.display
  | .numeric (.single c) => [c.display]
  | .numeric (.range c d) => [c.display, d.display]
  | _ => []

namespace Pattern

mutual

def Node.leafCount : Node → Nat
  | .leaf _ => 1
  | .object children => leafCounts children
  termination_by structural node => node

def leafCounts : List (String × Node) → Nat
  | [] => 0
  | (_, node) :: rest => node.leafCount + leafCounts rest
  termination_by structural children => children

end

def leafCount (p : Pattern) : Nat := leafCounts p.root

mutual

def Node.leaves : Node → List (List String × Filter)
  | .leaf filter => [([], filter)]
  | .object children => leavesOf children
  termination_by structural node => node

def leavesOf : List (String × Node) → List (List String × Filter)
  | [] => []
  | (key, node) :: rest => (node.leaves.map fun leaf => (key :: leaf.1, leaf.2)) ++ leavesOf rest
  termination_by structural children => children

end

def leaves (p : Pattern) : List (List String × Filter) := leavesOf p.root

end Pattern

end ChangeSieve
