import ChangeSieve.Pattern.Decode
import ChangeSieve.Proofs.Base64
import ChangeSieve.Proofs.FloatText
import ChangeSieve.Proofs.Induction

/-!
The grammar of patterns, and what each form of it stands for. A value has a spelling relation to at
most one tree, and to some tree exactly when it follows the grammar.
-/
namespace ChangeSieve
open Outcome

/-! The grammar. -/

def IsLiteral (v : Json) : Prop := v.kind = .string ∨ v.kind = .number ∨ v.kind = .boolean

def operatorSymbols : List String := ["=", "<", "<=", ">", ">="]

inductive IsArgument : String → Json → Prop where
  | excluded {v : Json} (hv : IsLiteral v) : IsArgument "anything-but" v
  | excludedList {items : List Json} (hne : items ≠ []) (hitems : ∀ item ∈ items, IsLiteral item) :
      IsArgument "anything-but" (.array items)
  | bound {op : String} (n : Number) (hop : op ∈ operatorSymbols) :
      IsArgument "numeric" (.array [.string op, .number n])
  | bounds {op op' : String} (n n' : Number) (hop : op ∈ operatorSymbols)
      (hop' : op' ∈ operatorSymbols) :
      IsArgument "numeric" (.array [.string op, .number n, .string op', .number n'])
  | presence (b : Bool) : IsArgument "exists" (.boolean b)
  | start (s : String) : IsArgument "prefix" (.string s)

inductive IsRule : Json → Prop where
  | null : IsRule .null
  | literal {v : Json} (hv : IsLiteral v) : IsRule v
  | named {key : String} {argument : Json} (h : IsArgument key argument) :
      IsRule (.object [(key, argument)])

def IsOption : Descriptor → Json → Prop
  | .string, .string _ => True
  | .number, .number _ => True
  | .number, .string s => Double.IsText (Text.trim s.toList)
  | .binary, .string s => ∃ data, s = Base64.encode data
  | .boolean, .boolean _ => True
  | _, _ => False

def optionTypes : List Descriptor := [.string, .number, .binary, .boolean]

/-- The objects taken for typed filters: a type over a list of literals, or `NULL` over a literal. -/
inductive HasTypedShape : List (String × Json) → Prop where
  | options {d : Descriptor} {items : List Json} (hd : d ∈ optionTypes)
      (hitems : ∀ item ∈ items, IsLiteral item) : HasTypedShape [(d.name, .array items)]
  | null {marker : Json} (hmarker : IsLiteral marker) : HasTypedShape [("NULL", marker)]

/-- A rule list, a typed filter, or nodes under keys; what is taken for a typed filter has to be one. -/
inductive IsNode : Json → Prop where
  | rules {items : List Json} (hne : items ≠ []) (hitems : ∀ item ∈ items, IsRule item) :
      IsNode (.array items)
  | options {d : Descriptor} {items : List Json} (hne : items ≠ [])
      (hitems : ∀ item ∈ items, IsOption d item) : IsNode (.object [(d.name, .array items)])
  | null {marker : Json} (hmarker : marker = .string "" ∨ marker = .boolean true) :
      IsNode (.object [("NULL", marker)])
  | object {members : List (String × Json)} (hshape : ¬ HasTypedShape members)
      (hne : members ≠ []) (hmembers : ∀ member ∈ members, IsNode member.2) :
      IsNode (.object members)

/-- A pattern is never taken for a typed filter itself. -/
def IsPattern (v : Json) : Prop :=
  ∃ members, v = .object members ∧ members ≠ [] ∧ ∀ member ∈ members, IsNode member.2

/-! What the forms stand for. A spelling relation joins a value with what it is read as. -/

inductive Literal.Spelling : Json → Literal → Prop where
  | string (s : String) : Spelling (.string s) (.string s)
  | number (n : Number) : Spelling (.number n) (.number n.toDouble)
  | boolean (b : Bool) : Spelling (.boolean b) (.boolean b)

namespace Rule

inductive ArgumentSpelling : String → Json → Rule → Prop where
  | excluded {v : Json} {literal : Literal} (h : literal.Spelling v) :
      ArgumentSpelling "anything-but" v (.anythingBut [literal])
  | excludedList {items : List Json} {literals : List Literal} (hne : items ≠ [])
      (h : List.Forall₂ Literal.Spelling items literals) :
      ArgumentSpelling "anything-but" (.array items) (.anythingBut literals)
  | single (op : Operator) (n : Number) :
      ArgumentSpelling "numeric" (.array [.string op.symbol, .number n])
        (.numeric (.single ⟨op, n.toDouble⟩))
  | range (op op' : Operator) (n n' : Number) :
      ArgumentSpelling "numeric"
        (.array [.string op.symbol, .number n, .string op'.symbol, .number n'])
        (.numeric (.range ⟨op, n.toDouble⟩ ⟨op', n'.toDouble⟩))
  | presence (b : Bool) : ArgumentSpelling "exists" (.boolean b) (.presence b)
  | startsWith (s : String) : ArgumentSpelling "prefix" (.string s) (.startsWith s)

inductive Spelling : Json → Rule → Prop where
  | null : Spelling .null .null
  | empty : Spelling (.string "") .empty
  | equals {v : Json} {literal : Literal} (hv : v ≠ .string "") (h : literal.Spelling v) :
      Spelling v (.equals literal)
  | named {key : String} {argument : Json} {rule : Rule} (h : ArgumentSpelling key argument rule) :
      Spelling (.object [(key, argument)]) rule

end Rule

namespace TypedFilter

/-- A number is spelled as a number or as a float text with white space around it. -/
inductive NumberSpelling : Json → Double → Prop where
  | number (n : Number) : NumberSpelling (.number n) n.toDouble
  | text {s : String} {d : Double} (h : Double.ofText? (Text.trim s.toList) = some d) :
      NumberSpelling (.string s) d

inductive OptionsSpelling : Descriptor → List Json → TypedFilter → Prop where
  | strings (options : List String) :
      OptionsSpelling .string (options.map .string) (.strings options)
  | numbers {items : List Json} {options : List Double}
      (h : List.Forall₂ NumberSpelling items options) :
      OptionsSpelling .number items (.numbers options)
  | binaries (options : List (List UInt8)) :
      OptionsSpelling .binary (options.map fun data => .string (Base64.encode data))
        (.binaries options)
  | booleans (options : List Bool) :
      OptionsSpelling .boolean (options.map .boolean) (.booleans options)

inductive Spelling : List (String × Json) → TypedFilter → Prop where
  | options {d : Descriptor} {items : List Json} {filter : TypedFilter} (hne : items ≠ [])
      (h : OptionsSpelling d items filter) : Spelling [(d.name, .array items)] filter
  | null {marker : Json} (hmarker : marker = .string "" ∨ marker = .boolean true) :
      Spelling [("NULL", marker)] .null

end TypedFilter

namespace Pattern

inductive Node.Spelling : Json → Node → Prop where
  | rules {items : List Json} {rules : List Rule} (hne : items ≠ [])
      (h : List.Forall₂ Rule.Spelling items rules) :
      Spelling (.array items) (.leaf (.rules rules))
  | typed {members : List (String × Json)} {filter : TypedFilter}
      (h : filter.Spelling members) : Spelling (.object members) (.leaf (.typed filter))
  | object {members : List (String × Json)} {children : List (String × Node)}
      (hshape : ¬ HasTypedShape members) (hne : members ≠ [])
      (hkeys : children.map Prod.fst = members.map Prod.fst)
      (hnodes : List.Forall₂ Spelling (members.map Prod.snd) (children.map Prod.snd)) :
      Spelling (.object members) (.object children)

/-- A pattern has the keys of the value, and under each key the node that is spelled there. -/
inductive Spelling : Json → Pattern → Prop where
  | root {members : List (String × Json)} {p : Pattern} (hne : members ≠ [])
      (hkeys : p.root.map Prod.fst = members.map Prod.fst)
      (hnodes : List.Forall₂ Node.Spelling (members.map Prod.snd) (p.root.map Prod.snd)) :
      Spelling (.object members) p

end Pattern

/-! A value follows the grammar when it is the spelling of something. -/

theorem isLiteral_iff {v : Json} : IsLiteral v ↔ ∃ literal : Literal, literal.Spelling v := by
  constructor
  · intro h
    cases v with
    | boolean b => exact ⟨_, .boolean b⟩
    | number n => exact ⟨_, .number n⟩
    | string s => exact ⟨_, .string s⟩
    | _ => simp [IsLiteral, Json.kind] at h
  · rintro ⟨_, _ | _ | _⟩ <;> simp [IsLiteral, Json.kind]

theorem mem_operatorSymbols_iff {symbol : String} :
    symbol ∈ operatorSymbols ↔ ∃ op : Operator, op.symbol = symbol := by
  constructor
  · intro h
    simp only [operatorSymbols, List.mem_cons, List.not_mem_nil, or_false] at h
    obtain rfl | rfl | rfl | rfl | rfl := h
    · exact ⟨.equal, rfl⟩
    · exact ⟨.less, rfl⟩
    · exact ⟨.atMost, rfl⟩
    · exact ⟨.greater, rfl⟩
    · exact ⟨.atLeast, rfl⟩
  · intro h
    obtain ⟨op, rfl⟩ := h
    cases op <;> decide

namespace Rule

theorem isArgument_iff {key : String} {argument : Json} :
    IsArgument key argument ↔ ∃ rule : Rule, rule.ArgumentSpelling key argument := by
  constructor
  · intro h
    rcases h with hv | ⟨hne, hitems⟩ | ⟨n, hop⟩ | ⟨n, n', hop, hop'⟩ | b | s
    · obtain ⟨literal, h⟩ := isLiteral_iff.1 hv
      exact ⟨_, .excluded h⟩
    · obtain ⟨literals, h⟩ := (exists_forall₂_iff fun v _ => isLiteral_iff).2 hitems
      exact ⟨_, .excludedList hne h⟩
    · obtain ⟨op, rfl⟩ := mem_operatorSymbols_iff.1 hop
      exact ⟨_, .single op n⟩
    · obtain ⟨op, rfl⟩ := mem_operatorSymbols_iff.1 hop
      obtain ⟨op', rfl⟩ := mem_operatorSymbols_iff.1 hop'
      exact ⟨_, .range op op' n n'⟩
    · exact ⟨_, .presence b⟩
    · exact ⟨_, .startsWith s⟩
  · intro h
    obtain ⟨_, h | ⟨hne, h⟩ | ⟨op, n⟩ | ⟨op, op', n, n'⟩ | b | s⟩ := h
    · exact .excluded (isLiteral_iff.2 ⟨_, h⟩)
    · exact .excludedList hne ((exists_forall₂_iff fun v _ => isLiteral_iff).1 ⟨_, h⟩)
    · exact .bound n (mem_operatorSymbols_iff.2 ⟨op, rfl⟩)
    · have hop := mem_operatorSymbols_iff.2 ⟨op, rfl⟩
      exact .bounds n n' hop (mem_operatorSymbols_iff.2 ⟨op', rfl⟩)
    · exact .presence b
    · exact .start s

theorem isRule_iff {v : Json} : IsRule v ↔ ∃ rule : Rule, rule.Spelling v := by
  constructor
  · intro h
    rcases h with _ | hv | h
    · exact ⟨_, .null⟩
    · by_cases hempty : v = .string ""
      · exact ⟨.empty, hempty ▸ .empty⟩
      · obtain ⟨literal, h⟩ := isLiteral_iff.1 hv
        exact ⟨_, .equals hempty h⟩
    · obtain ⟨rule, h⟩ := isArgument_iff.1 h
      exact ⟨rule, .named h⟩
  · intro h
    obtain ⟨_, _ | _ | ⟨_, h⟩ | h⟩ := h
    · exact .null
    · exact .literal (.inl rfl)
    · exact .literal (isLiteral_iff.2 ⟨_, h⟩)
    · exact .named (isArgument_iff.2 ⟨_, h⟩)

end Rule

namespace TypedFilter

theorem isOption_string_iff {v : Json} : IsOption .string v ↔ ∃ s, v = .string s := by
  cases v <;> simp [IsOption]

theorem isOption_number_iff {v : Json} : IsOption .number v ↔ ∃ d, NumberSpelling v d := by
  constructor
  · intro h
    cases v with
    | number n => exact ⟨_, .number n⟩
    | string s =>
      obtain ⟨d, hd⟩ := Option.isSome_iff_exists.1 (Double.ofText?_isSome_iff.2 h)
      exact ⟨d, .text hd⟩
    | _ => exact absurd h id
  · intro h
    obtain ⟨d, n | hd⟩ := h
    · trivial
    · exact Double.ofText?_isSome_iff.1 (Option.isSome_iff_exists.2 ⟨d, hd⟩)

theorem isOption_binary_iff {v : Json} :
    IsOption .binary v ↔ ∃ data, v = .string (Base64.encode data) := by
  cases v <;> simp [IsOption]

theorem isOption_boolean_iff {v : Json} : IsOption .boolean v ↔ ∃ b, v = .boolean b := by
  cases v <;> simp [IsOption]

/-- Members that are all written by one function are the images of a list under it. -/
theorem exists_map_iff {α : Type} {P : Json → Prop} {write : α → Json} {items : List Json}
    (h : ∀ v, P v ↔ ∃ a, v = write a) :
    (∃ as : List α, items = as.map write) ↔ ∀ v ∈ items, P v := by
  rw [← exists_forall₂_iff fun v _ => h v]
  simp only [forall₂_eq_map_iff]

theorem exists_optionsSpelling_iff {d : Descriptor} {items : List Json} :
    (∃ filter, OptionsSpelling d items filter) ↔
      d ∈ optionTypes ∧ ∀ item ∈ items, IsOption d item := by
  constructor
  · intro h
    obtain ⟨_, options | h | options | options⟩ := h
    · exact ⟨by decide, (exists_map_iff fun _ => isOption_string_iff).1 ⟨options, rfl⟩⟩
    · exact ⟨by decide, (exists_forall₂_iff fun _ _ => isOption_number_iff).1 ⟨_, h⟩⟩
    · exact ⟨by decide, (exists_map_iff fun _ => isOption_binary_iff).1 ⟨options, rfl⟩⟩
    · exact ⟨by decide, (exists_map_iff fun _ => isOption_boolean_iff).1 ⟨options, rfl⟩⟩
  · intro h
    obtain ⟨hd, hitems⟩ := h
    cases d with
    | string =>
      obtain ⟨options, rfl⟩ := (exists_map_iff fun _ => isOption_string_iff).2 hitems
      exact ⟨_, .strings options⟩
    | number =>
      obtain ⟨options, h⟩ := (exists_forall₂_iff fun _ _ => isOption_number_iff).2 hitems
      exact ⟨_, .numbers h⟩
    | binary =>
      obtain ⟨options, rfl⟩ := (exists_map_iff fun _ => isOption_binary_iff).2 hitems
      exact ⟨_, .binaries options⟩
    | boolean =>
      obtain ⟨options, rfl⟩ := (exists_map_iff fun _ => isOption_boolean_iff).2 hitems
      exact ⟨_, .booleans options⟩
    | _ => exact absurd hd (by decide)

/-- A type without alternatives has no alternative that could be written. -/
theorem mem_optionTypes {d : Descriptor} {v : Json} (h : IsOption d v) : d ∈ optionTypes := by
  cases d with
  | string | number | binary | boolean => decide
  | _ => cases v <;> exact absurd h id

end TypedFilter

namespace Pattern

theorem exists_children_iff {members : List (String × Json)}
    (h : ∀ member ∈ members, IsNode member.2 ↔ ∃ node : Node, node.Spelling member.2) :
    (∃ children : List (String × Node), children.map Prod.fst = members.map Prod.fst ∧
      List.Forall₂ Node.Spelling (members.map Prod.snd) (children.map Prod.snd)) ↔
      ∀ member ∈ members, IsNode member.2 := by
  simp only [← forall₂_fields_iff]
  refine exists_forall₂_iff fun member hmember => ?_
  rw [h member hmember]
  constructor
  · intro h'
    obtain ⟨node, hnode⟩ := h'
    exact ⟨(member.1, node), rfl, hnode⟩
  · intro h'
    obtain ⟨child, _, hnode⟩ := h'
    exact ⟨child.2, hnode⟩

theorem Node.isNode_iff {v : Json} : IsNode v ↔ ∃ node : Node, node.Spelling v := by
  induction v with
  | array items =>
    constructor
    · intro h
      rcases h with ⟨hne, hitems⟩
      obtain ⟨rules, h⟩ := (exists_forall₂_iff fun _ _ => Rule.isRule_iff).2 hitems
      exact ⟨_, .rules hne h⟩
    · intro h
      obtain ⟨_, ⟨hne, h⟩⟩ := h
      exact .rules hne ((exists_forall₂_iff fun _ _ => Rule.isRule_iff).1 ⟨_, h⟩)
  | object members ih =>
    constructor
    · intro h
      rcases h with _ | @⟨d, items, hne, hitems⟩ | hmarker | ⟨hshape, hne, hmembers⟩
      · obtain ⟨item, hitem⟩ := List.exists_mem_of_ne_nil items hne
        have hd := TypedFilter.mem_optionTypes (hitems item hitem)
        obtain ⟨filter, h⟩ := TypedFilter.exists_optionsSpelling_iff.2 ⟨hd, hitems⟩
        exact ⟨_, .typed (.options hne h)⟩
      · exact ⟨_, .typed (.null hmarker)⟩
      · obtain ⟨children, hkeys, hnodes⟩ := (exists_children_iff ih).2 hmembers
        exact ⟨_, .object hshape hne hkeys hnodes⟩
    · intro h
      obtain ⟨_, _ | (⟨hne, h⟩ | hmarker) | ⟨hshape, hne, hkeys, hnodes⟩⟩ := h
      · exact .options hne (TypedFilter.exists_optionsSpelling_iff.1 ⟨_, h⟩).2
      · exact .null hmarker
      · exact .object hshape hne ((exists_children_iff ih).1 ⟨_, hkeys, hnodes⟩)
  | _ =>
    constructor
    · intro h
      cases h
    · intro h
      obtain ⟨_, ⟨⟩⟩ := h

theorem isPattern_iff {v : Json} : IsPattern v ↔ ∃ p : Pattern, p.Spelling v := by
  constructor
  · intro h
    obtain ⟨members, rfl, hne, hmembers⟩ := h
    obtain ⟨children, hkeys, hnodes⟩ :=
      (exists_children_iff fun _ _ => Node.isNode_iff).2 hmembers
    exact ⟨⟨children⟩, .root hne hkeys hnodes⟩
  · intro h
    obtain ⟨p, ⟨hne, hkeys, hnodes⟩⟩ := h
    exact ⟨_, rfl, hne, (exists_children_iff fun _ _ => Node.isNode_iff).1 ⟨_, hkeys, hnodes⟩⟩

end Pattern

end ChangeSieve
