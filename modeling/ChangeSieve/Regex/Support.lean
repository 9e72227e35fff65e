import ChangeSieve.Regex.Reader

/-!
Regular expressions that can be matched. Matching runs an automaton over UTF-8 text without tables of letters, so an
expression may not ask for what only such tables tell, nor for a part of a character.
-/
namespace ChangeSieve.Regex

structure Mode where
  ignoreCase : Bool
  unicode : Bool
  deriving DecidableEq, Repr

namespace Mode

def initial : Mode := ⟨false, true⟩

def after (m : Mode) (change : Change) : Mode :=
  ⟨change.apply .ignoreCase m.ignoreCase, change.apply .unicode m.unicode⟩

/-- A character beside others: the letter case of Unicode is not known, and a byte has to be a character. -/
def allowsLiteral (m : Mode) (l : Literal) : Bool :=
  if m.unicode then !m.ignoreCase else !(l.isByte && 0x80 ≤ l.char.toNat)

/-- A character in a class, which without Unicode is a class of ASCII. -/
def allowsMember (m : Mode) (l : Literal) : Bool := if m.unicode then !m.ignoreCase else l.char.toNat < 0x80

/-- A shorthand for digits, spaces or letters is known for ASCII, and its complement is none of ASCII. -/
def allowsShorthand (m : Mode) (negated : Bool) : Bool := !m.unicode && !negated

mutual

def allowsItem (m : Mode) : ClassItem → Bool
  | .literal l => m.allowsMember l
  | .range first last => m.allowsMember first && m.allowsMember last
  | .named negated => if m.unicode then !m.ignoreCase else !negated
  | .shorthand negated => m.allowsShorthand negated
  | .nested negated operands => (m.unicode || !negated) && m.allowsOperands operands
  termination_by structural item => item

def allowsItems (m : Mode) : List ClassItem → Bool
  | [] => true
  | item :: rest => m.allowsItem item && m.allowsItems rest
  termination_by structural items => items

def allowsOperands (m : Mode) : List (List ClassItem) → Bool
  | [] => true
  | items :: rest => m.allowsItems items && m.allowsOperands rest
  termination_by structural operands => operands

end

mutual

/-- The mode after a part that can be matched; a group ends with the mode it starts in. -/
def through? (m : Mode) : Tree → Option Mode
  | .literal l => if m.allowsLiteral l then some m else none
  | .anyChar => if m.unicode then some m else none
  | .edge ofWord => if ofWord ∧ m.unicode then none else some m
  | .shorthand negated => if m.allowsShorthand negated then some m else none
  | .bracketed negated operands => if (m.unicode || !negated) && m.allowsOperands operands then some m else none
  | .change flags => some (m.after flags)
  | .repeated tree => m.through? tree
  | .group flags _ tree => ((m.after flags).through? tree).map fun _ => m
  | .sequence trees => m.throughAll? trees
  | .choice trees => m.throughAll? trees
  termination_by structural tree => tree

def throughAll? (m : Mode) : List Tree → Option Mode
  | [] => some m
  | tree :: rest =>
    match m.through? tree with
    | some m => m.throughAll? rest
    | none => none
  termination_by structural trees => trees

end

end Mode

def maxDepth : Nat := 250

/-- Says whether a tree can be matched: it is not too deep, no two groups share a name, and every part is supported. -/
def Tree.isSupported (tree : Tree) : Bool :=
  tree.depth ≤ maxDepth && decide tree.names.Nodup && (Mode.initial.through? tree).isSome

def isSupported (cs : List Char) : Bool := (read? cs).any Tree.isSupported

end ChangeSieve.Regex
