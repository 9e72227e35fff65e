import ChangeSieve.Regex.Basic
import ChangeSieve.Text.Alphabetic
import ChangeSieve.Text.Blank
import ChangeSieve.Text.Hexadecimal

/-!
Reading regular expressions in which no closing brace follows an opening one, so that nothing with braces ever ends.
White space and comments are passed over while the flag for them is on.
-/
namespace ChangeSieve.Regex

/-- Drops white space and comments, which run from a number sign to the end of the line. -/
def skipSpace (inComment : Bool) : List Char → List Char
  | [] => []
  | c :: rest =>
    if inComment then skipSpace (c ≠ '\n') rest
    else if Text.isBlank c then skipSpace false rest
    else if c = '#' then skipSpace true rest
    else c :: rest

def skip (verbose : Bool) (cs : List Char) : List Char := if verbose then skipSpace false cs else cs

/-- The next character that is no white space; a number sign is looked past, but the comment after it is not. -/
def peek? (verbose : Bool) (cs : List Char) : Option Char :=
  if verbose then
    match Text.trimLeft cs with
    | '#' :: rest => (Text.trimLeft rest).head?
    | rest => rest.head?
  else cs.head?

/-- Characters of ASCII that stand for themselves after a backslash: all but letters, digits and angle brackets. -/
def isEscapable (c : Char) : Bool := c.toNat < 0x80 && !c.isAlphanum && c ≠ '<' && c ≠ '>'

def control? : Char → Option Char
  | 'a' => some '\x07'
  | 'f' => some '\x0c'
  | 't' => some '\t'
  | 'n' => some '\n'
  | 'r' => some '\r'
  | 'v' => some '\x0b'
  | _ => none

def hexDigits? (verbose : Bool) : Nat → List Char → Option (List Char × List Char)
  | 0, cs => some ([], cs)
  | _ + 1, [] => none
  | n + 1, c :: rest =>
    if (Text.hexDigit? c).isSome then do
      let (digits, rest) ← hexDigits? verbose n (skip verbose rest)
      return (c :: digits, rest)
    else none

def hexLiteral? (verbose : Bool) (n : Nat) (cs : List Char) : Option (Tree × List Char) := do
  let (digits, rest) ← hexDigits? verbose n (skip verbose cs)
  let value ← Text.hexValue? digits
  if value.isValidChar then some (.literal ⟨Char.ofNat value, n = 2⟩, rest) else none

/-- Reads what follows a backslash. Classes by property would need tables that are not there. -/
def escape? (verbose : Bool) : List Char → Option (Tree × List Char)
  | [] => none
  | 'x' :: rest => hexLiteral? verbose 2 rest
  | 'u' :: rest => hexLiteral? verbose 4 rest
  | 'U' :: rest => hexLiteral? verbose 8 rest
  | c :: rest =>
    if isEscapable c then some (.literal (.plain c), rest)
    else match control? c with
      | some d => some (.literal (.plain d), rest)
      | none =>
        if c ∈ ['d', 's', 'w'] then some (.shorthand false, rest)
        else if c ∈ ['D', 'S', 'W'] then some (.shorthand true, rest)
        else if c ∈ ['A', 'z'] then some (.edge false, rest)
        else if c ∈ ['b', 'B', '<', '>'] then some (.edge true, rest)
        else none

def classNames : List String :=
  ["alnum", "alpha", "ascii", "blank", "cntrl", "digit", "graph", "lower", "print", "punct", "space", "upper", "word",
    "xdigit"]

def namedClass? (cs : List Char) : Option (ClassItem × List Char) :=
  match cs with
  | ':' :: rest =>
    let (negated, rest) := match rest with
      | '^' :: rest => (true, rest)
      | rest => (false, rest)
    match rest.dropWhile (· ≠ ':') with
    | ':' :: ']' :: after =>
      if String.ofList (rest.takeWhile (· ≠ ':')) ∈ classNames then some (.named negated, after) else none
    | _ => none
  | _ => none

def Tree.item? : Tree → Option ClassItem
  | .literal l => some (.literal l)
  | .shorthand negated => some (.shorthand negated)
  | _ => none

def classPart? (verbose : Bool) : List Char → Option (Tree × List Char)
  | [] => none
  | '\\' :: rest => escape? verbose rest
  | c :: rest => some (.literal (.plain c), rest)

/-- Reads a range, or one member; a minus sign before a closing bracket or another minus sign makes no range. -/
def classRange? (verbose : Bool) (cs : List Char) : Option (ClassItem × List Char) := do
  let (first, rest) ← classPart? verbose cs
  match skip verbose rest with
  | '-' :: after =>
    if peek? verbose after ∈ [some ']', some '-'] then return (← first.item?, '-' :: after)
    else match first, ← classPart? verbose (skip verbose after) with
      | .literal a, (.literal b, rest) => if a.char ≤ b.char then return (.range a b, rest) else none
      | _, _ => none
  | rest => return (← first.item?, rest)

/-- Reads minus signs at the start of a class, which stand for themselves. -/
def leadingDashes (verbose : Bool) : Nat → List Char → List ClassItem × List Char
  | n + 1, '-' :: rest =>
    let (items, rest) := leadingDashes verbose n (skip verbose rest)
    (.literal (.plain '-') :: items, rest)
  | _, cs => ([], cs)

/-- Reads the start of a class after its bracket: its negation, and members that stand for themselves only there. -/
def classStart (verbose : Bool) (cs : List Char) : Bool × List ClassItem × List Char :=
  let (negated, cs) := match skip verbose cs with
    | '^' :: rest => (true, skip verbose rest)
    | rest => (false, rest)
  match leadingDashes verbose cs.length cs with
  | ([], ']' :: rest) => (negated, [.literal (.plain ']')], rest)
  | (items, rest) => (negated, items, rest)

/-- Reads members and set operators of a class up to its closing bracket, in at most `n` steps. -/
def classRest? (verbose : Bool) :
    Nat → List (List ClassItem) → List ClassItem → List Char → Option (List (List ClassItem) × List Char)
  | 0, _, _, _ => none
  | n + 1, operands, items, cs =>
    match skip verbose cs with
    | [] => none
    | ']' :: rest => some ((items.reverse :: operands).reverse, rest)
    | '&' :: '&' :: rest => classRest? verbose n (items.reverse :: operands) [] rest
    | '-' :: '-' :: rest => classRest? verbose n (items.reverse :: operands) [] rest
    | '~' :: '~' :: rest => classRest? verbose n (items.reverse :: operands) [] rest
    | '[' :: rest =>
      match namedClass? rest with
      | some (item, rest) => classRest? verbose n operands (item :: items) rest
      | none => do
        let (negated, start, rest) := classStart verbose rest
        let (inner, rest) ← classRest? verbose n [] start rest
        classRest? verbose n operands (.nested negated inner :: items) rest
    | cs => do
      let (item, rest) ← classRange? verbose cs
      classRest? verbose n operands (item :: items) rest

def class? (verbose : Bool) (cs : List Char) : Option (Tree × List Char) := do
  let (negated, start, rest) := classStart verbose cs
  let (operands, rest) ← classRest? verbose (cs.length + 1) [] start rest
  return (.bracketed negated operands, rest)

/-- What an opening parenthesis starts: a change of flags up to the end of the group around it, or a group. -/
inductive Opening where
  | change (flags : Change)
  | group (flags : Change) (name : Option (List Char))

def isNameStart (c : Char) : Bool := c = '_' || Text.isAlphabetic c

def isNamePart (c : Char) : Bool := c ∈ ['_', '.', '[', ']'] || Text.isAlphanumeric c

def groupName? (cs : List Char) : Option (Opening × List Char) :=
  match cs.takeWhile (· ≠ '>'), cs.dropWhile (· ≠ '>') with
  | c :: name, _ :: rest =>
    if isNameStart c ∧ name.all isNamePart then some (.group [] (some (c :: name)), rest) else none
  | _, _ => none

/-- Reads flags, of which those after a minus sign are turned off, and the colon or parenthesis after them. -/
def flags? (negated dangling : Bool) (change : Change) : List Char → Option (Opening × List Char)
  | [] => none
  | c :: rest =>
    if c = ':' then if dangling then none else some (.group change none, rest)
    else if c = ')' then if dangling ∨ change = [] then none else some (.change change, rest)
    else if c = '-' then if negated then none else flags? true true change rest
    else match Flag.ofLetter? c with
      | some flag =>
        if (change.lookup flag).isSome then none else flags? negated false ((flag, !negated) :: change) rest
      | none => none

def opening? (verbose : Bool) (cs : List Char) : Option (Opening × List Char) :=
  match skip verbose cs with
  | '?' :: '=' :: _ => none
  | '?' :: '!' :: _ => none
  | '?' :: '<' :: '=' :: _ => none
  | '?' :: '<' :: '!' :: _ => none
  | '?' :: 'P' :: '<' :: rest => groupName? rest
  | '?' :: '<' :: rest => groupName? rest
  | '?' :: rest => flags? false false [] rest
  | rest => some (.group [] none, rest)

def sequenceOf : List Tree → Tree
  | [tree] => tree
  | trees => .sequence trees.reverse

def choiceOf : List Tree → Tree
  | [tree] => tree
  | trees => .choice trees.reverse

def part? (verbose : Bool) : List Char → Option (Tree × List Char)
  | [] => none
  | '{' :: _ => none
  | '\\' :: rest => escape? verbose rest
  | '.' :: rest => some (.anyChar, rest)
  | '^' :: rest => some (.edge false, rest)
  | '$' :: rest => some (.edge false, rest)
  | c :: rest => some (.literal (.plain c), rest)

/-- Repeats the last part; nothing and a change of flags cannot be repeated. -/
def repeatLast? : List Tree → Option (List Tree)
  | [] => none
  | .change _ :: _ => none
  | tree :: before => some (.repeated tree :: before)

def dropLazy : List Char → List Char
  | '?' :: rest => rest
  | rest => rest

/--
Reads branches up to the end of the text or of the group, in at most `n` steps; `branches` and `parts` are those read
before, last first.
-/
def branches? : Nat → Bool → List Tree → List Tree → List Char → Option (Tree × List Char)
  | 0, _, _, _, _ => none
  | n + 1, verbose, branches, parts, cs =>
    match skip verbose cs with
    | [] => some (choiceOf (sequenceOf parts :: branches), [])
    | c :: rest =>
      if c = ')' then some (choiceOf (sequenceOf parts :: branches), ')' :: rest)
      else if c = '|' then branches? n verbose (sequenceOf parts :: branches) [] rest
      else if c = '(' then
        match opening? verbose rest with
        | some (.change flags, rest) =>
          branches? n (flags.apply .verbose verbose) branches (.change flags :: parts) rest
        | some (.group flags name, rest) =>
          match branches? n (flags.apply .verbose verbose) [] [] rest with
          | some (tree, ')' :: rest) => branches? n verbose branches (.group flags name tree :: parts) rest
          | _ => none
        | none => none
      else if c = '[' then
        match class? verbose rest with
        | some (tree, rest) => branches? n verbose branches (tree :: parts) rest
        | none => none
      else if c = '*' ∨ c = '+' ∨ c = '?' then
        match repeatLast? parts with
        | some parts => branches? n verbose branches parts (dropLazy rest)
        | none => none
      else match part? verbose (c :: rest) with
        | some (tree, rest) => branches? n verbose branches (tree :: parts) rest
        | none => none

def read? (cs : List Char) : Option Tree :=
  match branches? (cs.length + 1) false [] [] cs with
  | some (tree, []) => some tree
  | _ => none

end ChangeSieve.Regex
