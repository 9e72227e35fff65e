import ChangeSieve.Pattern.Basic

/-! Equality of patterns. Numbers are equal as numbers, so a pattern that holds NaN differs from itself. -/
namespace ChangeSieve

def sameMembers {α : Type} (same : α → α → Bool) : List α → List α → Bool
  | [], [] => true
  | a :: as, b :: bs => same a b && sameMembers same as bs
  | _, _ => false

def TypedFilter.same : TypedFilter → TypedFilter → Bool
  | .strings a, .strings b => a == b
  | .numbers a, .numbers b => sameMembers Double.equal a b
  | .binaries a, .binaries b => a == b
  | .booleans a, .booleans b => a == b
  | .null, .null => true
  | _, _ => false

def Literal.same : Literal → Literal → Bool
  | .string a, .string b => a == b
  | .number a, .number b => a.equal b
  | .boolean a, .boolean b => a == b
  | _, _ => false

def Comparison.same (a b : Comparison) : Bool := a.operator == b.operator && a.operand.equal b.operand

def NumericRule.same : NumericRule → NumericRule → Bool
  | .single a, .single b => a.same b
  | .range a b, .range c d => a.same c && b.same d
  | _, _ => false

def Rule.same : Rule → Rule → Bool
  | .null, .null => true
  | .empty, .empty => true
  | .equals a, .equals b => a.same b
  | .anythingBut a, .anythingBut b => sameMembers Literal.same a b
  | .numeric a, .numeric b => a.same b
  | .presence a, .presence b => a == b
  | .startsWith a, .startsWith b => a == b
  | _, _ => false

def Filter.same : Filter → Filter → Bool
  | .typed a, .typed b => a.same b
  | .rules a, .rules b => sameMembers Rule.same a b
  | _, _ => false

namespace Pattern

mutual

def Node.same : Node → Node → Bool
  | .leaf a, .leaf b => a.same b
  | .object a, .object b => sameChildren a b
  | _, _ => false
  termination_by structural node => node

def sameChildren : List (String × Node) → List (String × Node) → Bool
  | [], [] => true
  | (k, a) :: as, (l, b) :: bs => k == l && a.same b && sameChildren as bs
  | _, _ => false
  termination_by structural children => children

end

def same (a b : Pattern) : Bool := sameChildren a.root b.root

end Pattern

end ChangeSieve
