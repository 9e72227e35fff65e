/-!
Regular expressions: trees of what is written in one, and the flags that change what it means. Every tree has a depth,
the number of brackets, groups, repetitions and lists around its innermost part.
-/
namespace ChangeSieve.Regex

inductive Flag where
  | ignoreCase
  | multiLine
  | dotMatchesLineEnd
  | swapGreed
  | unicode
  | carriageReturn
  | verbose
  deriving DecidableEq, Repr

def Flag.ofLetter? : Char → Option Flag
  | 'i' => some .ignoreCase
  | 'm' => some .multiLine
  | 's' => some .dotMatchesLineEnd
  | 'U' => some .swapGreed
  | 'u' => some .unicode
  | 'R' => some .carriageReturn
  | 'x' => some .verbose
  | _ => none

/-- Flags that are turned on or off, each at most once. -/
abbrev Change := List (Flag × Bool)

def Change.apply (change : Change) (flag : Flag) (before : Bool) : Bool := (change.lookup flag).getD before

/-- A character; one that is written as two hexadecimal digits may also mean a byte. -/
structure Literal where
  char : Char
  isByte : Bool
  deriving DecidableEq, Repr

def Literal.plain (c : Char) : Literal := ⟨c, false⟩

/-- A member of a class in brackets. A nested class has one list of members for each operand of its set operators. -/
inductive ClassItem where
  | literal (l : Literal)
  | range (first last : Literal)
  | named (negated : Bool)
  | shorthand (negated : Bool)
  | nested (negated : Bool) (operands : List (List ClassItem))

inductive Tree where
  | literal (l : Literal)
  | anyChar
  | edge (ofWord : Bool)
  | shorthand (negated : Bool)
  | bracketed (negated : Bool) (operands : List (List ClassItem))
  | change (flags : Change)
  | repeated (tree : Tree)
  | group (flags : Change) (name : Option (List Char)) (tree : Tree)
  | sequence (trees : List Tree)
  | choice (trees : List Tree)

/-- A depth with one more level, if there are several parts. -/
def deeper (parts depth : Nat) : Nat := if parts ≤ 1 then depth else depth + 1

mutual

def ClassItem.depth : ClassItem → Nat
  | .nested _ operands => operandsDepth 0 0 operands + 1
  | _ => 0
  termination_by structural item => item

def itemsDepth : List ClassItem → Nat
  | [] => 0
  | item :: rest => max item.depth (itemsDepth rest)
  termination_by structural items => items

/-- The depth of operands, which operators join from the left; `before` of them have the depth `left`. -/
def operandsDepth (before left : Nat) : List (List ClassItem) → Nat
  | [] => left
  | items :: rest =>
    operandsDepth (before + 1) (deeper (before + 1) (max left (deeper items.length (itemsDepth items)))) rest
  termination_by structural operands => operands

end

mutual

def Tree.depth : Tree → Nat
  | .bracketed _ operands => operandsDepth 0 0 operands + 1
  | .repeated tree => tree.depth + 1
  | .group _ _ tree => tree.depth + 1
  | .sequence trees => deeper trees.length (treesDepth trees)
  | .choice trees => deeper trees.length (treesDepth trees)
  | _ => 0
  termination_by structural tree => tree

def treesDepth : List Tree → Nat
  | [] => 0
  | tree :: rest => max tree.depth (treesDepth rest)
  termination_by structural trees => trees

end

mutual

def Tree.names : Tree → List (List Char)
  | .repeated tree => tree.names
  | .group _ name tree => name.toList ++ tree.names
  | .sequence trees => treeNames trees
  | .choice trees => treeNames trees
  | _ => []
  termination_by structural tree => tree

def treeNames : List Tree → List (List Char)
  | [] => []
  | tree :: rest => tree.names ++ treeNames rest
  termination_by structural trees => trees

end

end ChangeSieve.Regex
