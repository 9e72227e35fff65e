import ChangeSieve.Match.Subject
import ChangeSieve.Pattern.Basic

/-! When a filter holds of what it sees. Values of different types are never equal. -/
namespace ChangeSieve

/-- `relates op a b` is the comparison `a op b`, which fails for NaN. -/
def Operator.relates : Operator → Double → Double → Bool
  | .equal, a, b => a.equal b
  | .less, a, b => a.less b
  | .atMost, a, b => a.atMost b
  | .greater, a, b => b.less a
  | .atLeast, a, b => b.atMost a

def Comparison.holds (c : Comparison) (value : Double) : Bool := c.operator.relates value c.operand

def NumericRule.holds : NumericRule → Double → Bool
  | .single c, value => c.holds value
  | .range c d, value => c.holds value && d.holds value

def Literal.equals : Literal → Scalar → Bool
  | .string a, .string b => a == b
  | .number a, .number b => b.equal a
  | .boolean a, .boolean b => a == b
  | _, _ => false

def TypedFilter.holds : TypedFilter → Subject → Bool
  | .null, .null => true
  | .strings options, .scalar (.string s) => options.any (· == s)
  | .numbers options, .scalar (.number d) => options.any (d.equal ·)
  | .binaries options, .scalar (.binary data) => options.any (· == data)
  | .booleans options, .scalar (.boolean b) => options.any (· == b)
  | _, _ => false

def Rule.holds : Rule → Subject → Bool
  | .null, .null => true
  | .empty, .scalar (.string s) => s == ""
  | .equals literal, .scalar value => literal.equals value
  | .anythingBut literals, .scalar value => literals.all fun literal => !literal.equals value
  | .anythingBut _, .null => true
  | .numeric bounds, .scalar (.number d) => bounds.holds d
  | .presence wanted, subject => subject.isPresent == wanted
  | .startsWith start, .scalar (.string s) => start.toList.isPrefixOf s.toList
  | _, _ => false

def Filter.holds : Filter → Subject → Bool
  | .typed filter, subject => filter.holds subject
  | .rules alternatives, subject => alternatives.any (·.holds subject)

end ChangeSieve
