import ChangeSieve.Pattern.Same
import ChangeSieve.Proofs.Acceptance
import ChangeSieve.Proofs.Container
import ChangeSieve.Proofs.NumberValue
import ChangeSieve.Proofs.Positions

/-!
Typed scalars in patterns and in records. The readers of both take the same contents, but for the
texts of NaN and the infinities: a pattern takes these for numbers, which no record has.
-/
namespace ChangeSieve
open Outcome

/-! The numbers of a pattern. -/

def TypedFilter.numberValues : TypedFilter → List Double
  | .numbers options => options
  | _ => []

def Literal.numberValues : Literal → List Double
  | .number d => [d]
  | _ => []

def NumericRule.numberValues : NumericRule → List Double
  | .single c => [c.operand]
  | .range c d => [c.operand, d.operand]

def Rule.numberValues : Rule → List Double
  | .equals literal => literal.numberValues
  | .anythingBut literals => literals.flatMap Literal.numberValues
  | .numeric bounds => bounds.numberValues
  | _ => []

def Filter.numberValues : Filter → List Double
  | .typed filter => filter.numberValues
  | .rules alternatives => alternatives.flatMap Rule.numberValues

namespace Pattern

def Node.HasNumber (node : Node) (d : Double) : Prop :=
  ∃ keys filter, node.Leads keys filter ∧ d ∈ filter.numberValues

def HasNumber (p : Pattern) (d : Double) : Prop := (Node.object p.root).HasNumber d

@[simp] theorem Node.hasNumber_leaf_iff {filter : Filter} {d : Double} :
    (Node.leaf filter).HasNumber d ↔ d ∈ filter.numberValues := by
  constructor
  · rintro ⟨_, _, ⟨⟩, h⟩
    exact h
  · intro h
    exact ⟨[], filter, .leaf filter, h⟩

@[simp] theorem Node.hasNumber_object_iff {children : List (String × Node)} {d : Double} :
    (Node.object children).HasNumber d ↔ ∃ child ∈ children, child.2.HasNumber d := by
  constructor
  · rintro ⟨_, filter, _ | ⟨hmem, hrest⟩, h⟩
    exact ⟨_, hmem, _, filter, hrest, h⟩
  · rintro ⟨⟨key, node⟩, hmem, keys, filter, hrest, h⟩
    exact ⟨key :: keys, filter, .child hmem hrest, h⟩

end Pattern

/-! Only NaN keeps a pattern from being equal to itself. -/

@[simp] theorem Double.equal_self_iff {d : Double} : d.equal d = true ↔ d ≠ .nan := by
  cases d <;> simp [equal, related, order]

theorem sameMembers_self_iff {α : Type} {same : α → α → Bool} {as : List α} :
    sameMembers same as as = true ↔ ∀ a ∈ as, same a a = true := by
  induction as with
  | nil => simp [sameMembers]
  | cons a rest ih => rw [sameMembers, Bool.and_eq_true, ih, List.forall_mem_cons]

@[simp] theorem TypedFilter.same_self_iff {filter : TypedFilter} :
    filter.same filter = true ↔ .nan ∉ filter.numberValues := by
  cases filter with
  | numbers options =>
    simp only [same, sameMembers_self_iff, Double.equal_self_iff, numberValues]
    exact ⟨fun h hmem => h _ hmem rfl, fun h d hd heq => h (heq ▸ hd)⟩
  | _ => simp [same, numberValues]

@[simp] theorem Literal.same_self_iff {literal : Literal} :
    literal.same literal = true ↔ .nan ∉ literal.numberValues := by
  cases literal <;> simp [same, numberValues, @eq_comm _ Double.nan]

@[simp] theorem Comparison.same_self_iff {c : Comparison} : c.same c = true ↔ c.operand ≠ .nan := by
  simp [same]

@[simp] theorem Rule.same_self_iff {rule : Rule} : rule.same rule = true ↔ .nan ∉ rule.numberValues := by
  cases rule with
  | equals literal => exact Literal.same_self_iff
  | anythingBut literals =>
    simp [same, numberValues, sameMembers_self_iff]
  | numeric bounds =>
    cases bounds <;>
      simp [same, numberValues, NumericRule.same, NumericRule.numberValues, @eq_comm _ Double.nan]
  | _ => simp [same, numberValues]

@[simp] theorem Filter.same_self_iff {filter : Filter} :
    filter.same filter = true ↔ .nan ∉ filter.numberValues := by
  cases filter with
  | typed filter => exact TypedFilter.same_self_iff
  | rules rules => simp [same, numberValues, sameMembers_self_iff]

namespace Pattern

theorem sameChildren_self_iff {children : List (String × Node)} :
    sameChildren children children = true ↔ ∀ child ∈ children, child.2.same child.2 = true := by
  induction children with
  | nil => simp [sameChildren]
  | cons child rest ih => simp [sameChildren, ih]

@[simp] theorem Node.same_self_iff {node : Node} : node.same node = true ↔ ¬node.HasNumber .nan := by
  induction node with
  | leaf filter => rw [Node.same, Filter.same_self_iff, Node.hasNumber_leaf_iff]
  | object children ih =>
    rw [Node.same, sameChildren_self_iff, Node.hasNumber_object_iff]
    simp only [not_exists, not_and]
    exact forall₂_congr ih

@[simp] theorem same_self_iff {p : Pattern} : p.same p = true ↔ ¬p.HasNumber .nan :=
  @Node.same_self_iff (.object p.root)

end Pattern

/-! Where numbers that are not finite come from. -/

def NonFiniteText (v : Json) : Prop :=
  ∃ s d, v = .string s ∧ Attribute.numberOfText? s = some d ∧ d.isFinite = false

/-- A node with the text of a number that is not finite among the alternatives of a filter. -/
inductive HasNonFiniteText : Json → Prop where
  | option {items : List Json} {item : Json} (hitems : ∀ item ∈ items, IsLiteral item)
      (hmem : item ∈ items) (h : NonFiniteText item) :
      HasNonFiniteText (Attribute.container .number (.array items))
  | member {members : List (String × Json)} {member : String × Json} (hmem : member ∈ members)
      (h : HasNonFiniteText member.2) : HasNonFiniteText (.object members)

theorem hasNonFiniteText_container_iff {d : Descriptor} {items : List Json}
    (hitems : ∀ item ∈ items, IsLiteral item) :
    HasNonFiniteText (Attribute.container d (.array items)) ↔
      d = .number ∧ ∃ item ∈ items, NonFiniteText item := by
  constructor
  · intro h
    generalize hv : Attribute.container d (.array items) = v at h
    cases h with
    | option _ hmem h =>
      obtain ⟨hd, hcontent⟩ := Descriptor.singleton_inj.1 (Json.object.inj hv)
      obtain rfl := Json.array.inj hcontent
      exact ⟨hd, _, hmem, h⟩
    | member hmem h =>
      rw [← Json.object.inj hv, List.mem_singleton] at hmem
      rw [hmem] at h
      cases h
  · rintro ⟨rfl, item, hmem, h⟩
    exact .option hitems hmem h

theorem hasNonFiniteText_object_iff {members : List (String × Json)}
    (h : ∀ items, members = [(Descriptor.number.name, .array items)] →
      ¬∀ item ∈ items, IsLiteral item) :
    HasNonFiniteText (.object members) ↔ ∃ member ∈ members, HasNonFiniteText member.2 := by
  constructor
  · intro htext
    generalize hv : Json.object members = v at htext
    cases htext with
    | option hitems => exact absurd hitems (h _ (Json.object.inj hv))
    | member hmem htext =>
      rw [← Json.object.inj hv] at hmem
      exact ⟨_, hmem, htext⟩
  · rintro ⟨member, hmem, htext⟩
    exact .member hmem htext

theorem Literal.Spelling.isFinite {v : Json} {literal : Literal} (h : literal.Spelling v) :
    ∀ d ∈ literal.numberValues, d.isFinite = true := by
  cases h <;> simp [numberValues]

theorem Rule.Spelling.isFinite {v : Json} {rule : Rule} (h : rule.Spelling v) :
    ∀ d ∈ rule.numberValues, d.isFinite = true := by
  cases h with
  | equals _ h => exact h.isFinite
  | named h =>
    cases h with
    | excluded h => simpa [numberValues] using h.isFinite
    | excludedList _ h =>
      simp only [numberValues, List.mem_flatMap, forall_exists_index, and_imp]
      intro d literal hliteral hd
      obtain ⟨item, _, hspelling⟩ := exists_left_of_forall₂ h hliteral
      exact hspelling.isFinite d hd
    | single op n => simp [numberValues, NumericRule.numberValues]
    | range op op' n n' => simp [numberValues, NumericRule.numberValues]
    | _ => simp [numberValues]
  | _ => simp [numberValues]

namespace TypedFilter

theorem NumberSpelling.isFinite_iff {v : Json} {d : Double} (h : NumberSpelling v d) :
    d.isFinite = false ↔ NonFiniteText v := by
  cases h with
  | number n => simp [NonFiniteText]
  | @text s d h =>
    simp only [NonFiniteText, Json.string.injEq]
    constructor
    · exact fun hd => ⟨s, d, rfl, h, hd⟩
    · rintro ⟨_, d', rfl, hd', hfinite⟩
      rw [Attribute.numberOfText?, h, Option.some.injEq] at hd'
      rwa [hd']

theorem OptionsSpelling.exists_nonFinite_iff {d : Descriptor} {items : List Json}
    {filter : TypedFilter} (h : OptionsSpelling d items filter) :
    (∃ x ∈ filter.numberValues, x.isFinite = false) ↔
      d = .number ∧ ∃ item ∈ items, NonFiniteText item := by
  cases h with
  | @numbers items options h =>
    simp only [numberValues, true_and]
    constructor
    · rintro ⟨x, hx, hfinite⟩
      obtain ⟨item, hitem, hspelling⟩ := exists_left_of_forall₂ h hx
      exact ⟨item, hitem, hspelling.isFinite_iff.1 hfinite⟩
    · rintro ⟨item, hitem, htext⟩
      obtain ⟨x, hx, hspelling⟩ := exists_right_of_forall₂ h hitem
      exact ⟨x, hx, hspelling.isFinite_iff.2 htext⟩
  | _ => simp [numberValues]

theorem Spelling.exists_nonFinite_iff {members : List (String × Json)} {filter : TypedFilter}
    (h : filter.Spelling members) :
    (∃ x ∈ filter.numberValues, x.isFinite = false) ↔ HasNonFiniteText (.object members) := by
  cases h with
  | @options d items _ _ h =>
    have hitems := (exists_optionsSpelling_iff.1 ⟨_, h⟩).2
    rw [h.exists_nonFinite_iff]
    exact (hasNonFiniteText_container_iff fun item hitem =>
      isLiteral_of_isOption (hitems item hitem)).symm
  | @null marker hmarker =>
    have hnumber : ∀ items, [("NULL", marker)] = [(Descriptor.number.name, .array items)] →
        ¬∀ item ∈ items, IsLiteral item := by simp [Descriptor.name]
    rw [hasNonFiniteText_object_iff hnumber]
    simp only [numberValues, List.not_mem_nil, false_and, exists_false, List.mem_singleton,
      exists_eq_left, false_iff]
    rcases hmarker with rfl | rfl <;> rintro ⟨⟩

end TypedFilter

namespace Pattern

/-- Numbers that are not finite come from their texts in number filters, and from nowhere else. -/
theorem Node.Spelling.exists_nonFinite_iff {v : Json} {node : Node} (h : node.Spelling v) :
    (∃ d, node.HasNumber d ∧ d.isFinite = false) ↔ HasNonFiniteText v := by
  induction v generalizing node with
  | array items =>
    cases h with
    | rules _ h =>
      constructor
      · rintro ⟨d, hd, hfinite⟩
        obtain ⟨rule, hrule, hd⟩ := List.mem_flatMap.1 (Node.hasNumber_leaf_iff.1 hd)
        obtain ⟨item, _, hspelling⟩ := exists_left_of_forall₂ h hrule
        rw [hspelling.isFinite d hd] at hfinite
        cases hfinite
      · rintro ⟨⟩
  | object members ih =>
    cases h with
    | typed h =>
      simp only [Node.hasNumber_leaf_iff, Filter.numberValues]
      exact h.exists_nonFinite_iff
    | @object _ children hshape _ hkeys hnodes =>
      have hnumber : ∀ items, members = [(Descriptor.number.name, .array items)] →
          ¬∀ item ∈ items, IsLiteral item := fun items hmembers hitems =>
        hshape (hmembers ▸ .options (by decide) hitems)
      have hpairs := forall₂_fields_iff.2 ⟨hkeys, hnodes⟩
      rw [hasNonFiniteText_object_iff hnumber]
      simp only [Node.hasNumber_object_iff]
      constructor
      · rintro ⟨d, ⟨child, hchild, hd⟩, hfinite⟩
        obtain ⟨member, hmember, _, hspelling⟩ := exists_left_of_forall₂ hpairs hchild
        exact ⟨member, hmember, (ih member hmember hspelling).1 ⟨d, hd, hfinite⟩⟩
      · rintro ⟨member, hmember, htext⟩
        obtain ⟨child, hchild, _, hspelling⟩ := exists_right_of_forall₂ hpairs hmember
        obtain ⟨d, hd, hfinite⟩ := (ih member hmember hspelling).2 htext
        exact ⟨d, ⟨child, hchild, hd⟩, hfinite⟩
  | _ => cases h

/-- The root of a pattern is never a filter, so only what is below it can have such a text. -/
theorem exists_nonFinite_iff {v : Json} {p : Pattern} (h : decode v = .ok p) :
    (∃ d, p.HasNumber d ∧ d.isFinite = false) ↔
      ∃ members, v = .object members ∧ ∃ member ∈ members, HasNonFiniteText member.2 := by
  obtain ⟨members, rfl, _, hchildren⟩ := decode_eq_ok_iff.1 h
  have hpairs := decodeChildren_eq_ok_iff.1 hchildren
  simp only [HasNumber, Node.hasNumber_object_iff, Json.object.injEq, exists_eq_left']
  constructor
  · rintro ⟨d, ⟨child, hchild, hd⟩, hfinite⟩
    obtain ⟨member, hmember, _, hnode⟩ := exists_left_of_forall₂ hpairs hchild
    have hspelling := (Node.decode_eq_ok_iff_spelling _ _).1 hnode
    exact ⟨member, hmember, hspelling.exists_nonFinite_iff.1 ⟨d, hd, hfinite⟩⟩
  · rintro ⟨member, hmember, htext⟩
    obtain ⟨child, hchild, _, hnode⟩ := exists_right_of_forall₂ hpairs hmember
    have hspelling := (Node.decode_eq_ok_iff_spelling _ _).1 hnode
    obtain ⟨d, hd, hfinite⟩ := hspelling.exists_nonFinite_iff.2 htext
    exact ⟨d, ⟨child, hchild, hd⟩, hfinite⟩

/-! One alternative. -/

theorem isNode_single_iff {d : Descriptor} {v : Json} (hd : d ∈ optionTypes) (hv : IsLiteral v) :
    IsNode (Attribute.container d (.array [v])) ↔ IsOption d v := by
  have hitems : ∀ item ∈ [v], IsLiteral item := by simpa using hv
  constructor
  · intro h
    generalize hcontainer : Attribute.container d (.array [v]) = w at h
    cases h with
    | rules => cases hcontainer
    | options _ hoptions =>
      obtain ⟨rfl, hcontent⟩ := Descriptor.singleton_inj.1 (Json.object.inj hcontainer)
      rw [← Json.array.inj hcontent] at hoptions
      exact hoptions v (by simp)
    | @null marker hmarker =>
      obtain ⟨_, hcontent⟩ :=
        (@Descriptor.singleton_inj _ d .null _ marker).1 (Json.object.inj hcontainer)
      rcases hmarker with rfl | rfl <;> cases hcontent
    | object hshape =>
      rw [← Json.object.inj hcontainer] at hshape
      exact absurd (.options hd hitems) hshape
  · intro h
    exact .options (by simp) (by simpa using h)

theorem decode_member {key : String} {v : Json} {node : Node} (h : node.Spelling v) :
    decode (.object [(key, v)]) = .ok ⟨[(key, node)]⟩ := by
  have hread := (Node.decode_eq_ok_iff_spelling [key] node).2 h
  refine decode_eq_ok_iff.2 ⟨_, rfl, by simp, ?_⟩
  exact decodeChildren_eq_ok_iff.2 (.cons ⟨rfl, hread⟩ .nil)

theorem exists_decode_single_iff {key : String} {d : Descriptor} {v : Json} (hd : d ∈ optionTypes)
    (hv : IsLiteral v) :
    (∃ p, decode (.object [(key, Attribute.container d (.array [v]))]) = .ok p) ↔
      IsOption d v := by
  rw [← isNode_single_iff hd hv, Node.isNode_iff]
  constructor
  · rintro ⟨p, hp⟩
    obtain ⟨members, hmembers, _, hchildren⟩ := decode_eq_ok_iff.1 hp
    have hpairs := decodeChildren_eq_ok_iff.1 hchildren
    rw [← Json.object.inj hmembers] at hpairs
    obtain ⟨child, _, _, hnode⟩ := exists_right_of_forall₂ hpairs List.mem_cons_self
    exact ⟨child.2, (Node.decode_eq_ok_iff_spelling _ _).1 hnode⟩
  · rintro ⟨node, hnode⟩
    exact ⟨_, decode_member hnode⟩

end Pattern

namespace Record

/-- An object with one key is read as a container only by the decoder of attribute values. -/
theorem decode_container_eq_typed_iff {d : Descriptor} {content : Json} {a : Attribute} :
    decode (Attribute.container d content) = .ok (.typed a) ↔
      Attribute.decodeContent d content = .ok a := by
  by_cases hfits : d.fits content = true
  · simp [decode_container hfits]
  · constructor
    · intro h
      have hshape : isContainer [(d.name, content)] = false := by
        rw [isContainer_singleton, eq_false_of_ne_true hfits]
      rw [Attribute.container, decode_eq_of_not_isContainer hshape, map_eq_ok_iff] at h
      obtain ⟨_, _, hobject⟩ := h
      cases hobject
    · intro h
      exact absurd (Attribute.fits_of_decodeContent h) hfits

end Record

namespace Attribute

theorem any_isFinite_iff {s : String} : (numberOfText? s).any Double.isFinite = true ↔
    Double.IsText (Text.trim s.toList) ∧ ¬NonFiniteText (.string s) := by
  rw [← Double.ofText?_isSome_iff, ← numberOfText?]
  cases h : numberOfText? s with
  | none => simp
  | some d => cases hd : d.isFinite <;> simp [NonFiniteText, h, hd]

/-- Content of a type is an alternative of it, but no text of a number that is not finite. -/
theorem exists_decodeContent_iff {d : Descriptor} {v : Json} (hd : d ∈ optionTypes) :
    (∃ a, decodeContent d v = .ok a) ↔ IsOption d v ∧ ¬(d = .number ∧ NonFiniteText v) := by
  have hflat : IsFlat d v := by
    constructor <;> (rintro rfl; exact absurd hd (by decide))
  rw [decodeContent_of_isFlat hflat]
  cases d with
  | string =>
    simp only [decodeFlat, bind_eq_ok_iff, pure_eq_ok_iff, Json.asString_eq_ok_iff,
      TypedFilter.isOption_string_iff]
    simp
  | binary =>
    simp only [decodeFlat, bind_eq_ok_iff, pure_eq_ok_iff, Json.asString_eq_ok_iff,
      decodeBase64_eq_ok_iff, TypedFilter.isOption_binary_iff]
    simp
  | boolean =>
    simp only [decodeFlat, bind_eq_ok_iff, pure_eq_ok_iff, Json.asBoolean_eq_ok_iff,
      TypedFilter.isOption_boolean_iff]
    simp
  | number =>
    simp only [decodeFlat, bind_eq_ok_iff, pure_eq_ok_iff, numberText_eq_ok_iff,
      checkNumber_eq_ok_iff]
    cases v with
    | number n => simp [IsOption, NonFiniteText]
    | string s => simp [IsOption, any_isFinite_iff]
    | _ => simp [IsOption]
  | _ => exact absurd hd (by decide)

/-- The text of a number that is not finite is an alternative all the same. -/
theorem isOption_of_nonFiniteText {v : Json} (h : NonFiniteText v) : IsOption .number v := by
  obtain ⟨s, d, rfl, hd, _⟩ := h
  exact Double.ofText?_isSome_iff.1 (Option.isSome_iff_exists.2 ⟨d, hd⟩)

end Attribute

namespace Pattern

/--
A pattern takes the contents that a record takes, and the texts of numbers that are not finite.
These are all that can put such a number into a pattern, and only NaN makes a pattern differ from
itself.
-/
theorem decode_option_iff_container_or_nonFinite (key : String) {d : Descriptor}
    (hd : d ∈ optionTypes) {v : Json} (hv : IsLiteral v) {w : Json} {p : Pattern}
    (hp : decode w = .ok p) :
    ((∃ q, decode (.object [(key, Attribute.container d (.array [v]))]) = .ok q) ↔
      (∃ a, Record.decode (Attribute.container d v) = .ok (.typed a)) ∨
        d = .number ∧ NonFiniteText v) ∧
    (d = .number ∧ NonFiniteText v →
      ∀ a, Record.decode (Attribute.container d v) ≠ .ok (.typed a)) ∧
    ((∀ x, p.HasNumber x → x.isFinite = true) ↔
      ¬∃ members, w = .object members ∧ ∃ member ∈ members, HasNonFiniteText member.2) ∧
    (p.same p = true ↔ ¬p.HasNumber .nan) := by
  have hcontainer : (∃ a, Record.decode (Attribute.container d v) = .ok (.typed a)) ↔
      IsOption d v ∧ ¬(d = .number ∧ NonFiniteText v) := by
    simp only [Record.decode_container_eq_typed_iff, Attribute.exists_decodeContent_iff hd]
  refine ⟨?_, ?_, ?_, same_self_iff⟩
  · rw [exists_decode_single_iff hd hv, hcontainer]
    constructor
    · intro h
      by_cases htext : d = .number ∧ NonFiniteText v
      · exact .inr htext
      · exact .inl ⟨h, htext⟩
    · rintro (⟨h, _⟩ | ⟨rfl, h⟩)
      · exact h
      · exact Attribute.isOption_of_nonFiniteText h
  · intro htext a ha
    exact (hcontainer.1 ⟨a, ha⟩).2 htext
  · rw [← exists_nonFinite_iff hp]
    simp

/-- An infinity is no number of a record, and yet a pattern with one is equal to itself. -/
theorem decode_option_of_infinity : ∃ p,
    decode (.object [("p", Attribute.container .number (.array [.string "-inf"]))]) = .ok p ∧
      (∀ a, Record.decode (Attribute.container .number (.string "-inf")) ≠ .ok (.typed a)) ∧
      (¬∀ x, p.HasNumber x → x.isFinite = true) ∧ p.same p = true := by
  have hread : decode (.object [("p", Attribute.container .number (.array [.string "-inf"]))]) =
      .ok ⟨[("p", .leaf (.typed (.numbers [.infinite true])))]⟩ := rfl
  have hnumber : Descriptor.number ∈ optionTypes := by decide
  have hliteral : IsLiteral (.string "-inf") := .inl rfl
  have htext : NonFiniteText (.string "-inf") := ⟨"-inf", .infinite true, rfl, rfl, rfl⟩
  obtain ⟨_, hcontainer, hfinite, _⟩ :=
    decode_option_iff_container_or_nonFinite "p" hnumber hliteral hread
  refine ⟨_, hread, hcontainer ⟨rfl, htext⟩, fun h => ?_, rfl⟩
  refine hfinite.1 h ⟨_, rfl, _, List.mem_cons_self, ?_⟩
  exact .option (List.forall_mem_singleton.2 hliteral) List.mem_cons_self htext

/-- NaN in a pattern and in a record. -/
theorem nan_is_option_and_no_container : ∃ p,
    decode (.object [("p", Attribute.container .number (.array [.string "nan"]))]) = .ok p ∧
      p.HasNumber .nan ∧ p.same p = false ∧
      ∀ a, Record.decode (Attribute.container .number (.string "nan")) ≠ .ok (.typed a) := by
  refine ⟨⟨[("p", .leaf (.typed (.numbers [.nan])))]⟩, rfl, ?_, rfl, ?_⟩
  · exact ⟨["p"], _, .child List.mem_cons_self (.leaf _), List.mem_cons_self⟩
  · intro a h
    cases h

end Pattern

end ChangeSieve
