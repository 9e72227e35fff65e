import ChangeSieve.Proofs.OwnFilter

/-!
Rule lists of literals. Such a list holds of the scalars that are equal to one of its literals, which
is what a typed filter over the same literals asks for, so both spellings admit the same records.
-/
namespace ChangeSieve

theorem Literal.Spelling.unique {v : Json} {literal literal' : Literal} (h : literal.Spelling v)
    (h' : literal'.Spelling v) : literal = literal' :=
  Option.some.inj ((decode?_eq_some_iff.2 h).symm.trans (decode?_eq_some_iff.2 h'))

def Subject.EqualsOneOf (subject : Subject) (items : List Json) : Prop :=
  ∃ item ∈ items, ∃ literal : Literal, literal.Spelling item ∧
    ∃ value, subject = .scalar value ∧ literal.equals value = true

namespace Literal
variable {value : Scalar}

@[simp] theorem equals_string_iff {s : String} :
    (string s).equals value = true ↔ value = .string s := by
  cases value with
  | string text => simp [equals, @eq_comm _ text]
  | _ => simp [equals]

theorem equals_number_iff {d : Double} :
    (number d).equals value = true ↔ ∃ x, value = .number x ∧ x.equal d = true := by
  cases value <;> simp [equals]

theorem equals_boolean_iff {b : Bool} : (boolean b).equals value = true ↔ value = .boolean b := by
  cases value with
  | boolean flag => simp [equals, @eq_comm _ flag]
  | _ => simp [equals]

end Literal

namespace Rule
variable {subject : Subject}

theorem holds_empty_iff : Rule.empty.holds subject = true ↔ subject = .scalar (.string "") := by
  cases subject with
  | scalar value => cases value <;> simp [holds]
  | _ => simp [holds]

theorem holds_equals_iff {literal : Literal} :
    (equals literal).holds subject = true ↔
      ∃ value, subject = .scalar value ∧ literal.equals value = true := by
  cases subject <;> simp [holds]

@[simp] theorem holds_single_iff {c : Comparison} :
    (numeric (.single c)).holds subject = true ↔
      ∃ d, subject = .scalar (.number d) ∧ c.holds d = true := by
  cases subject with
  | scalar value => cases value <;> simp [holds, NumericRule.holds]
  | _ => simp [holds]

@[simp] theorem holds_null_iff : Rule.null.holds subject = true ↔ subject = .null := by
  cases subject <;> simp [holds]

/-- The rule of a literal holds of the equal scalars, also where it is the rule of the empty text. -/
theorem Spelling.holds_literal_iff {v : Json} {rule : Rule} {literal : Literal}
    (h : rule.Spelling v) (hv : literal.Spelling v) :
    rule.holds subject = true ↔ ∃ value, subject = .scalar value ∧ literal.equals value = true := by
  cases h with
  | null | named => cases hv
  | empty =>
    cases hv
    simp only [holds_empty_iff, Literal.equals_string_iff, exists_eq_right]
  | equals _ h' =>
    obtain rfl := hv.unique h'
    exact holds_equals_iff

end Rule

namespace Filter
variable {subject : Subject} {items : List Json}

@[simp] theorem holds_rules_iff {alternatives : List Rule} :
    (rules alternatives).holds subject = true ↔ ∃ rule ∈ alternatives, rule.holds subject = true :=
  List.any_eq_true

theorem holds_literals_iff {alternatives : List Rule}
    (hrules : List.Forall₂ Rule.Spelling items alternatives)
    (hitems : ∀ item ∈ items, IsLiteral item) :
    (rules alternatives).holds subject = true ↔ subject.EqualsOneOf items := by
  rw [holds_rules_iff]
  constructor
  · rintro ⟨rule, hrule, hholds⟩
    obtain ⟨item, hitem, hspelling⟩ := Outcome.exists_left_of_forall₂ hrules hrule
    obtain ⟨literal, hliteral⟩ := isLiteral_iff.1 (hitems item hitem)
    exact ⟨item, hitem, literal, hliteral, (hspelling.holds_literal_iff hliteral).1 hholds⟩
  · rintro ⟨item, hitem, literal, hliteral, hvalue⟩
    obtain ⟨rule, hrule, hspelling⟩ := Outcome.exists_right_of_forall₂ hrules hitem
    exact ⟨rule, hrule, (hspelling.holds_literal_iff hliteral).2 hvalue⟩

end Filter

namespace Subject
variable {subject : Subject}

theorem equalsOneOf_map_iff {α : Type} {write : α → Json} {literal : α → Literal}
    (hspelling : ∀ a, (literal a).Spelling (write a)) {as : List α} :
    subject.EqualsOneOf (as.map write) ↔
      ∃ a ∈ as, ∃ value, subject = .scalar value ∧ (literal a).equals value = true := by
  unfold EqualsOneOf
  simp only [List.mem_map, exists_exists_and_eq_and]
  refine exists_congr fun a => and_congr_right fun _ => ?_
  constructor
  · rintro ⟨literal', hspelling', hvalue⟩
    rwa [← hspelling'.unique (hspelling a)]
  · intro hvalue
    exact ⟨literal a, hspelling a, hvalue⟩

theorem equalsOneOf_strings_iff {texts : List String} :
    subject.EqualsOneOf (texts.map .string) ↔ ∃ s ∈ texts, subject = .scalar (.string s) := by
  rw [equalsOneOf_map_iff .string]
  simp only [Literal.equals_string_iff, exists_eq_right]

theorem equalsOneOf_booleans_iff {flags : List Bool} :
    subject.EqualsOneOf (flags.map .boolean) ↔ ∃ b ∈ flags, subject = .scalar (.boolean b) := by
  rw [equalsOneOf_map_iff .boolean]
  simp only [Literal.equals_boolean_iff, exists_eq_right]

theorem equalsOneOf_numbers_iff {numbers : List Number} :
    subject.EqualsOneOf (numbers.map .number) ↔
      ∃ n ∈ numbers, ∃ d, subject = .scalar (.number d) ∧ d.equal n.toDouble = true := by
  rw [equalsOneOf_map_iff .number]
  simp only [Literal.equals_number_iff]
  refine exists_congr fun n => and_congr_right fun _ => ?_
  constructor
  · rintro ⟨_, hvalue, d, rfl, hequal⟩
    exact ⟨d, hvalue, hequal⟩
  · rintro ⟨d, hvalue, hequal⟩
    exact ⟨_, hvalue, d, rfl, hequal⟩

end Subject

/-! Two spellings of one demand. -/

def equalityRule (n : Number) : Json :=
  .object [("numeric", .array [.string "=", .number n])]

/-- A typed filter, a rule list, and what both ask for. -/
inductive SameDemand : Json → Json → (Subject → Prop) → Prop where
  | strings {texts : List String} (hne : texts ≠ []) :
      SameDemand (Attribute.container .string (.array (texts.map .string)))
        (.array (texts.map .string)) (·.EqualsOneOf (texts.map .string))
  | numbers {numbers : List Number} (hne : numbers ≠ []) :
      SameDemand (Attribute.container .number (.array (numbers.map .number)))
        (.array (numbers.map .number)) (·.EqualsOneOf (numbers.map .number))
  | equalities {numbers : List Number} (hne : numbers ≠ []) :
      SameDemand (Attribute.container .number (.array (numbers.map .number)))
        (.array (numbers.map equalityRule)) (·.EqualsOneOf (numbers.map .number))
  | booleans {flags : List Bool} (hne : flags ≠ []) :
      SameDemand (Attribute.container .boolean (.array (flags.map .boolean)))
        (.array (flags.map .boolean)) (·.EqualsOneOf (flags.map .boolean))
  | null : SameDemand (Attribute.container .null (.string "")) (.array [.null]) (· = .null)

namespace Pattern
open Outcome

/-- A list of literals is spelled by a rule list, which asks for an equal scalar. -/
theorem exists_literal_rules {items : List Json} (hne : items ≠ [])
    (hitems : ∀ item ∈ items, IsLiteral item) :
    ∃ rules, (Node.leaf (.rules rules)).Spelling (.array items) ∧
      ∀ subject, (Filter.rules rules).holds subject = true ↔ subject.EqualsOneOf items := by
  obtain ⟨rules, hrules⟩ :=
    (exists_forall₂_iff fun _ _ => Rule.isRule_iff).2 fun item hitem => .literal (hitems item hitem)
  exact ⟨rules, .rules hne hrules, fun subject => Filter.holds_literals_iff hrules hitems⟩

theorem numbers_spelling {numbers : List Number} (hne : numbers ≠ []) :
    (Node.leaf (.typed (.numbers (numbers.map Number.toDouble)))).Spelling
      (Attribute.container .number (.array (numbers.map .number))) := by
  refine .typed (.options (by simpa using hne) (.numbers ?_))
  rw [List.forall₂_map_left_iff, List.forall₂_map_right_iff, List.forall₂_same]
  exact fun n _ => .number n

theorem holds_numbers_iff_equalsOneOf {numbers : List Number} {subject : Subject} :
    (TypedFilter.numbers (numbers.map Number.toDouble)).holds subject = true ↔
      subject.EqualsOneOf (numbers.map .number) := by
  rw [TypedFilter.holds_numbers_iff, Subject.equalsOneOf_numbers_iff]
  constructor
  · rintro ⟨d, hd, option, hoption, hequal⟩
    obtain ⟨n, hn, rfl⟩ := List.mem_map.1 hoption
    exact ⟨n, hn, d, hd, hequal⟩
  · rintro ⟨n, hn, d, hd, hequal⟩
    exact ⟨d, hd, _, List.mem_map_of_mem hn, hequal⟩

theorem exists_equality_rules {numbers : List Number} (hne : numbers ≠ []) :
    ∃ rules, (Node.leaf (.rules rules)).Spelling (.array (numbers.map equalityRule)) ∧
      ∀ subject, (Filter.rules rules).holds subject = true ↔
        subject.EqualsOneOf (numbers.map .number) := by
  refine ⟨numbers.map fun n => .numeric (.single ⟨.equal, n.toDouble⟩),
    .rules (by simpa using hne) ?_, fun subject => ?_⟩
  · rw [List.forall₂_map_left_iff, List.forall₂_map_right_iff, List.forall₂_same]
    exact fun n _ => .named (.single .equal n)
  · rw [Filter.holds_rules_iff, Subject.equalsOneOf_numbers_iff]
    simp only [List.mem_map, exists_exists_and_eq_and]
    exact exists_congr fun n => and_congr_right fun _ => Rule.holds_single_iff

/-- Both spellings are read, and each asks for what the demand says. -/
theorem exists_filters_of_sameDemand {typed rules : Json} {wanted : Subject → Prop}
    (h : SameDemand typed rules wanted) :
    ∃ filter alternatives, (Node.leaf (.typed filter)).Spelling typed ∧
      (Node.leaf (.rules alternatives)).Spelling rules ∧
      (∀ subject, filter.holds subject = true ↔ wanted subject) ∧
      ∀ subject, (Filter.rules alternatives).holds subject = true ↔ wanted subject := by
  have hliterals {α : Type} (write : α → Json) (values : List α)
      (hwrite : ∀ value, IsLiteral (write value)) : ∀ item ∈ values.map write, IsLiteral item :=
    List.forall_mem_map.2 fun value _ => hwrite value
  cases h with
  | @strings texts hne =>
    have hitems : texts.map Json.string ≠ [] := by simpa using hne
    obtain ⟨alternatives, hrules, hholds⟩ :=
      exists_literal_rules hitems (hliterals _ _ fun _ => .inl rfl)
    exact ⟨.strings texts, alternatives, .typed (.options hitems (.strings texts)), hrules,
      fun _ => TypedFilter.holds_strings_iff.trans Subject.equalsOneOf_strings_iff.symm, hholds⟩
  | @numbers numbers hne =>
    have hitems : numbers.map Json.number ≠ [] := by simpa using hne
    obtain ⟨alternatives, hrules, hholds⟩ :=
      exists_literal_rules hitems (hliterals _ _ fun _ => .inr (.inl rfl))
    exact ⟨_, alternatives, numbers_spelling hne, hrules,
      fun _ => holds_numbers_iff_equalsOneOf, hholds⟩
  | @equalities numbers hne =>
    obtain ⟨alternatives, hrules, hholds⟩ := exists_equality_rules hne
    exact ⟨_, alternatives, numbers_spelling hne, hrules,
      fun _ => holds_numbers_iff_equalsOneOf, hholds⟩
  | @booleans flags hne =>
    have hitems : flags.map Json.boolean ≠ [] := by simpa using hne
    obtain ⟨alternatives, hrules, hholds⟩ :=
      exists_literal_rules hitems (hliterals _ _ fun _ => .inr (.inr rfl))
    exact ⟨.booleans flags, alternatives, .typed (.options hitems (.booleans flags)), hrules,
      fun _ => TypedFilter.holds_booleans_iff.trans Subject.equalsOneOf_booleans_iff.symm, hholds⟩
  | null =>
    refine ⟨.null, [.null], .typed (.null (.inl rfl)), .rules (by simp) (.cons .null .nil),
      fun _ => TypedFilter.holds_null_iff, fun subject => ?_⟩
    simp only [Filter.holds_rules_iff, List.mem_singleton, exists_eq_left]
    exact Rule.holds_null_iff

/-! Rule lists under keys. -/

/-- A list under any other key than these four is never taken for a typed filter. -/
theorem not_hasTypedShape_of_name {key : String} {items : List Json}
    (hkey : key ∉ ["S", "N", "B", "BOOL"]) : ¬HasTypedShape [(key, .array items)] := by
  rintro (⟨hd, _⟩ | hmarker)
  · apply hkey
    simp only [optionTypes, List.mem_cons, List.not_mem_nil, or_false] at hd
    obtain rfl | rfl | rfl | rfl := hd <;> decide
  · simp [IsLiteral, Json.kind] at hmarker

/-- A node of a pattern is read under any keys that do not make a typed filter of it. -/
theorem decode_nest_of_not_typed {v : Json} {node : Node} (h : node.Spelling v)
    {before : List String} {key : String} (hkey : before = [] ∨ ¬HasTypedShape [(key, v)]) :
    ∃ p, decode (v.nest (before ++ [key])) = .ok p ∧
      ∀ r, p.admits r = node.admits (r.follow? (before ++ [key])) := by
  by_cases hbefore : before = []
  · subst hbefore
    refine ⟨_, decode_member h, fun r => ?_⟩
    exact node.admits_nest [key] (some r)
  · have hinner : (Node.object [(key, node)]).Spelling (.object [(key, v)]) :=
      .object (hkey.resolve_left hbefore) (by simp) rfl (.cons h .nil)
    obtain ⟨p, hp, hadmits⟩ := decode_nest hinner rfl hbefore
    have hnest : v.nest (before ++ [key]) = (Json.object [(key, v)]).nest before := by
      unfold Json.nest
      rw [List.foldr_append]
      rfl
    refine ⟨p, hnest ▸ hp, fun r => ?_⟩
    rw [hadmits, Record.follow?_append]
    exact node.admits_nest [key] (r.follow? before)

/--
A typed filter and the rule list over the same values are both read under any keys, and they admit
the same records: those with one of the values under these keys. Below the root the last key must not
be the name of a type that has alternatives, since a list under such a name is a typed filter itself.
-/
theorem typed_and_rules_admit_alike {typed rules : Json} {wanted : Subject → Prop}
    (h : SameDemand typed rules wanted) (before : List String) (key : String)
    (hkey : before = [] ∨ key ∉ ["S", "N", "B", "BOOL"]) :
    ∃ p q, decode (typed.nest (before ++ [key])) = .ok p ∧
      decode (rules.nest (before ++ [key])) = .ok q ∧
      ∀ r, p.admits r = q.admits r ∧
        (p.admits r = true ↔ wanted (Subject.ofRecord? (r.follow? (before ++ [key])))) := by
  obtain ⟨filter, alternatives, htyped, hrules, hfilter, halternatives⟩ :=
    exists_filters_of_sameDemand h
  have htypedKey : ¬HasTypedShape [(key, typed)] := by
    apply not_hasTypedShape_of_object
    cases h <;> rfl
  have hrulesKey : before = [] ∨ ¬HasTypedShape [(key, rules)] := by
    apply hkey.imp_right
    intro hname
    cases h <;> exact not_hasTypedShape_of_name hname
  obtain ⟨p, hp, hadmits⟩ := decode_nest_of_not_typed htyped (.inr htypedKey)
  obtain ⟨q, hq, hadmits'⟩ := decode_nest_of_not_typed hrules hrulesKey
  refine ⟨p, q, hp, hq, fun r => ?_⟩
  have hp' : p.admits r = true ↔ wanted (Subject.ofRecord? (r.follow? (before ++ [key]))) := by
    rw [hadmits]
    exact hfilter _
  have hq' : q.admits r = true ↔ wanted (Subject.ofRecord? (r.follow? (before ++ [key]))) := by
    rw [hadmits']
    exact halternatives _
  exact ⟨Bool.eq_iff_iff.2 (hp'.trans hq'.symm), hp'⟩

/-- The empty text under keys that name types, one of them a type without alternatives. -/
theorem empty_text_admits_under_type_names :
    let texts := Json.array [.string "", .string "x"]
    let r := Record.object [("S", .object [("NULL", .typed (.string ""))])]
    ∃ p q, decode ((Attribute.container .string texts).nest ["S", "NULL"]) = .ok p ∧
      decode (texts.nest ["S", "NULL"]) = .ok q ∧ p.admits r = true ∧ q.admits r = true := by
  intro texts r
  have hne : ["", "x"] ≠ [] := by decide
  have hdemand : SameDemand (Attribute.container .string texts) texts _ := .strings hne
  obtain ⟨p, q, hp, hq, halike⟩ := typed_and_rules_admit_alike hdemand ["S"] "NULL" (.inr (by decide))
  have hadmits : p.admits r = true :=
    (halike r).2.2 (Subject.equalsOneOf_strings_iff.2 ⟨"", List.mem_cons_self, rfl⟩)
  exact ⟨p, q, hp, hq, hadmits, (halike r).1 ▸ hadmits⟩

end Pattern

end ChangeSieve
