import ChangeSieve.Match.Rules

/-! When a pattern admits a change record: every filter must hold at its position. -/
namespace ChangeSieve.Pattern

mutual

/-- Judges what a record has at the position of a node; below anything but an object all is absent. -/
def Node.admits : Node → Option Record → Bool
  | .leaf filter, r => filter.holds (Subject.ofRecord? r)
  | .object children, r => childrenAdmit children r
  termination_by structural node => node

def childrenAdmit : List (String × Node) → Option Record → Bool
  | [], _ => true
  | (key, node) :: rest, r => node.admits (r.bind (·.get? key)) && childrenAdmit rest r
  termination_by structural children => children

end

def admits (p : Pattern) (r : Record) : Bool := childrenAdmit p.root (some r)

def anyAdmits (patterns : List Pattern) (r : Record) : Bool := patterns.any (·.admits r)

end ChangeSieve.Pattern
