import ChangeSieve.Proofs.Container
import ChangeSieve.Proofs.Grammar
import ChangeSieve.Proofs.Reading

/-! Reading a pattern accepts exactly the grammar, and yields the tree that the value spells. -/
namespace ChangeSieve
open Outcome

namespace Literal

theorem decode?_eq_some_iff {v : Json} {literal : Literal} :
    decode? v = some literal ↔ literal.Spelling v := by
  constructor
  · intro h
    cases v with
    | string s => exact Option.some.inj h ▸ .string s
    | number n => exact Option.some.inj h ▸ .number n
    | boolean b => exact Option.some.inj h ▸ .boolean b
    | _ => exact absurd h (by simp [decode?])
  · rintro (_ | _ | _) <;> rfl

/-- A literal that must be there is read, whatever the fault would have been. -/
theorem decode?_member_eq_ok_iff {v : Json} {literal : Literal} {fault : RuleFault} :
    (match decode? v with
      | some literal => .ok literal
      | none => .error fault) = (.ok literal : Except RuleFault Literal) ↔ literal.Spelling v := by
  rw [← decode?_eq_some_iff]
  cases decode? v <;> simp

end Literal

theorem Operator.ofSymbol?_eq_some_iff {symbol : String} {op : Operator} :
    Operator.ofSymbol? symbol = some op ↔ op.symbol = symbol := by
  constructor
  · intro h
    simpa using List.find?_some h
  · intro h
    subst h
    cases op <;> rfl

namespace Rule

variable {path : List String}

theorem decodeExcluded_eq_ok_iff {v : Json} {literals : List Literal} :
    decodeExcluded v = .ok literals ↔
      (∃ literal : Literal, literal.Spelling v ∧ [literal] = literals) ∨
      ∃ items, v = .array items ∧ items ≠ [] ∧ List.Forall₂ Literal.Spelling items literals := by
  cases v with
  | array items =>
    have hnone (literal : Literal) : ¬ literal.Spelling (.array items) := by rintro ⟨⟩
    cases items with
    | nil => simp [decodeExcluded, hnone]
    | cons item rest =>
      simp only [decodeExcluded, mapM_eq_ok_iff, hnone, false_and, exists_false, false_or]
      constructor
      · intro h
        exact ⟨_, rfl, by simp, h.imp fun _ _ hread => Literal.decode?_member_eq_ok_iff.1 hread⟩
      · intro h
        obtain ⟨_, ⟨⟩, _, h⟩ := h
        exact h.imp fun _ _ hspelling => Literal.decode?_member_eq_ok_iff.2 hspelling
  | _ =>
    simp only [← Literal.decode?_eq_some_iff]
    simp [decodeExcluded, Literal.decode?]

theorem decodeComparison_eq_ok_iff {operator operand : Json} {c : Comparison} :
    decodeComparison path operator operand = .ok c ↔
      ∃ (op : Operator) (n : Number), operator = .string op.symbol ∧ operand = .number n ∧
        ⟨op, n.toDouble⟩ = c := by
  cases operator with
  | string symbol =>
    simp only [decodeComparison, Json.string.injEq, eq_comm (a := symbol),
      ← Operator.ofSymbol?_eq_some_iff]
    cases Operator.ofSymbol? symbol with
    | none => simp
    | some op => cases operand <;> simp
  | _ => simp [decodeComparison]

theorem decodeNumeric_eq_ok_iff {v : Json} {bounds : NumericRule} :
    decodeNumeric path v = .ok bounds ↔
      (∃ (op : Operator) (n : Number), v = .array [.string op.symbol, .number n] ∧
        .single ⟨op, n.toDouble⟩ = bounds) ∨
      ∃ (op op' : Operator) (n n' : Number),
        v = .array [.string op.symbol, .number n, .string op'.symbol, .number n'] ∧
        .range ⟨op, n.toDouble⟩ ⟨op', n'.toDouble⟩ = bounds := by
  unfold decodeNumeric
  split
  next operator operand =>
    simp only [bind_eq_ok_iff, pure_eq_ok_iff, decodeComparison_eq_ok_iff]
    constructor
    · intro h
      obtain ⟨_, ⟨op, n, rfl, rfl, rfl⟩, rfl⟩ := h
      exact .inl ⟨op, n, rfl, rfl⟩
    · intro h
      rcases h with ⟨op, n, ⟨⟩, rfl⟩ | ⟨_, _, _, _, ⟨⟩, _⟩
      exact ⟨_, ⟨op, n, rfl, rfl, rfl⟩, rfl⟩
  next operator operand operator' operand' =>
    simp only [bind_eq_ok_iff, pure_eq_ok_iff, decodeComparison_eq_ok_iff]
    constructor
    · intro h
      obtain ⟨_, ⟨op, n, rfl, rfl, rfl⟩, _, ⟨op', n', rfl, rfl, rfl⟩, rfl⟩ := h
      exact .inr ⟨op, op', n, n', rfl, rfl⟩
    · intro h
      rcases h with ⟨_, _, ⟨⟩, _⟩ | ⟨op, op', n, n', ⟨⟩, rfl⟩
      exact ⟨_, ⟨op, n, rfl, rfl, rfl⟩, _, ⟨op', n', rfl, rfl, rfl⟩, rfl⟩
  next items htwo hfour =>
    simp only [reduceCtorEq, Json.array.injEq, false_iff]
    intro h
    rcases h with ⟨op, n, rfl, _⟩ | ⟨op, op', n, n', rfl, _⟩
    · exact htwo _ _ rfl
    · exact hfour _ _ _ _ rfl
  next hitems =>
    simp only [reduceCtorEq, false_iff]
    intro h
    rcases h with ⟨op, n, rfl, _⟩ | ⟨op, op', n, n', rfl, _⟩
    · exact hitems _ rfl
    · exact hitems _ rfl

theorem decodeNamed_eq_ok_iff {key : String} {argument : Json} {rule : Rule} :
    decodeNamed path key argument = .ok rule ↔ rule.ArgumentSpelling key argument := by
  constructor
  · intro h
    unfold decodeNamed at h
    split_ifs at h with hexcluded hnumeric hpresence hstart
    · subst hexcluded
      simp only [mapError_eq_ok_iff, map_eq_ok_iff, decodeExcluded_eq_ok_iff] at h
      obtain ⟨_, ⟨literal, hliteral, rfl⟩ | ⟨items, rfl, hne, hitems⟩, rfl⟩ := h
      · exact .excluded hliteral
      · exact .excludedList hne hitems
    · subst hnumeric
      simp only [map_eq_ok_iff, decodeNumeric_eq_ok_iff] at h
      obtain ⟨_, ⟨op, n, rfl, rfl⟩ | ⟨op, op', n, n', rfl, rfl⟩, rfl⟩ := h
      · exact .single op n
      · exact .range op op' n n'
    · subst hpresence
      split at h
      · obtain rfl := Except.ok.inj h
        exact .presence _
      · simp at h
    · subst hstart
      split at h
      · obtain rfl := Except.ok.inj h
        exact .startsWith _
      · simp at h
  · intro h
    rcases h with h | ⟨hne, h⟩ | ⟨op, n⟩ | ⟨op, op', n, n'⟩ | b | s
    · have hread := decodeExcluded_eq_ok_iff.2 (.inl ⟨_, h, rfl⟩)
      simp [decodeNamed, hread, Except.map, Except.mapError]
    · have hread := decodeExcluded_eq_ok_iff.2 (.inr ⟨_, rfl, hne, h⟩)
      simp [decodeNamed, hread, Except.map, Except.mapError]
    · have hread := (@decodeNumeric_eq_ok_iff path _ _).2 (.inl ⟨op, n, rfl, rfl⟩)
      simp [decodeNamed, hread, Except.map]
    · have hread := (@decodeNumeric_eq_ok_iff path _ _).2 (.inr ⟨op, op', n, n', rfl, rfl⟩)
      simp [decodeNamed, hread, Except.map]
    · rfl
    · rfl

theorem decode_eq_ok_iff {v : Json} {rule : Rule} :
    decode path v = .ok rule ↔ rule.Spelling v := by
  constructor
  · intro h
    cases v with
    | null => exact Except.ok.inj h ▸ .null
    | boolean b => exact Except.ok.inj h ▸ .equals (by simp) (.boolean b)
    | number n => exact Except.ok.inj h ▸ .equals (by simp) (.number n)
    | string s =>
      by_cases hs : s = ""
      · subst hs
        exact Except.ok.inj h ▸ .empty
      · simp only [decode, if_neg hs] at h
        exact Except.ok.inj h ▸ .equals (by simpa using hs) (.string s)
    | array items => simp [decode] at h
    | object members =>
      match members with
      | [] | _ :: _ :: _ => simp [decode] at h
      | [(key, argument)] => exact .named (decodeNamed_eq_ok_iff.1 h)
  · intro h
    rcases h with _ | _ | ⟨hv, h⟩ | h
    · rfl
    · rfl
    · cases h with
      | string s =>
        have hs : s ≠ "" := by simpa using hv
        simp [decode, hs]
      | _ => rfl
    · exact decodeNamed_eq_ok_iff.2 h

theorem decodeList_eq_ok_iff {items : List Json} {rules : List Rule} :
    decodeList path items = .ok rules ↔ items ≠ [] ∧ List.Forall₂ Rule.Spelling items rules := by
  unfold decodeList
  split_ifs with hempty
  · simp [hempty]
  · simp [hempty, mapM_eq_ok_iff, decode_eq_ok_iff]

end Rule

namespace TypedFilter

/-- Alternatives are read one by one, since a reader that takes one finds it of the right type. -/
theorem options_eq_ok_iff {α : Type} {expected : String} {accepts : Json → Bool}
    {read : Json → Except TypedFault α} (haccepts : ∀ v a, read v = .ok a → accepts v = true)
    {items : List Json} {as : List α} :
    options expected accepts read items = .ok as ↔
      List.Forall₂ (fun v a => read v = .ok a) items as := by
  unfold options
  cases hfind : items.find? fun v => !accepts v with
  | none => exact mapM_eq_ok_iff
  | some v =>
    simp only [reduceCtorEq, false_iff]
    intro h
    obtain ⟨a, _, hread⟩ := exists_right_of_forall₂ h (List.mem_of_find?_eq_some hfind)
    simpa [haccepts v a hread] using List.find?_some hfind

theorem stringOption_eq_ok_iff {v : Json} {s : String} :
    stringOption v = .ok s ↔ v = .string s := by
  cases v <;> simp [stringOption]

theorem numberOption_eq_ok_iff {v : Json} {d : Double} :
    numberOption v = .ok d ↔ NumberSpelling v d := by
  constructor
  · intro h
    cases v with
    | number n => exact Except.ok.inj h ▸ .number n
    | string s =>
      simp only [numberOption] at h
      split at h
      next d' hd =>
        obtain rfl := Except.ok.inj h
        exact .text hd
      next => simp at h
    | _ => simp [numberOption] at h
  · intro h
    rcases h with n | h
    · rfl
    · simp [numberOption, Attribute.numberOfText?, h]

theorem binaryOption_eq_ok_iff {v : Json} {data : List UInt8} :
    binaryOption v = .ok data ↔ v = .string (Base64.encode data) := by
  cases v <;> simp [binaryOption, Base64.decode_eq_ok_iff]

theorem booleanOption_eq_ok_iff {v : Json} {b : Bool} :
    booleanOption v = .ok b ↔ v = .boolean b := by
  cases v <;> simp [booleanOption]

theorem map_options_eq_ok_iff {α : Type} {expected : String} {accepts : Json → Bool}
    {read : Json → Except TypedFault α} {wrap : List α → TypedFilter}
    (haccepts : ∀ v a, read v = .ok a → accepts v = true) {items : List Json}
    {filter : TypedFilter} :
    (options expected accepts read items).map (some ∘ wrap) = .ok (some filter) ↔
      ∃ as, List.Forall₂ (fun v a => read v = .ok a) items as ∧ wrap as = filter := by
  simp [options_eq_ok_iff haccepts]

/-- Alternatives that have one spelling each are read from the list of their spellings. -/
theorem map_options_eq_ok_iff_of_write {α : Type} {expected : String} {accepts : Json → Bool}
    {read : Json → Except TypedFault α} {wrap : List α → TypedFilter} {write : α → Json}
    (hread : ∀ v a, read v = .ok a ↔ v = write a) (haccepts : ∀ a, accepts (write a) = true)
    {items : List Json} {filter : TypedFilter} :
    (options expected accepts read items).map (some ∘ wrap) = .ok (some filter) ↔
      ∃ as, items = as.map write ∧ wrap as = filter := by
  rw [map_options_eq_ok_iff fun v a h => (hread v a).1 h ▸ haccepts a]
  simp only [hread, forall₂_eq_map_iff]

/-- Reads the alternatives of a type that has some, and takes an empty list of them. -/
def readOptions (d : Descriptor) (items : List Json) : Except TypedFault (Option TypedFilter) :=
  match d with
  | .string => (options "strings" isText stringOption items).map (some ∘ strings)
  | .number => (options "numbers" isTextOrNumber numberOption items).map (some ∘ numbers)
  | .binary => (options "base64 strings" isText binaryOption items).map (some ∘ binaries)
  | .boolean => (options "booleans" isBoolean booleanOption items).map (some ∘ booleans)
  | _ => .ok none

theorem decodeList?_eq_ok_iff {d : Descriptor} {items : List Json} {filter? : Option TypedFilter} :
    decodeList? d items = .ok filter? ↔
      readOptions d items = .ok filter? ∧ (filter?.isSome → items ≠ []) := by
  have hcheck (read : Except TypedFault (Option TypedFilter)) :
      (read >>= fun filter? =>
        if filter?.isSome ∧ items = [] then .error .noAlternatives else .ok filter?) = .ok filter? ↔
        read = .ok filter? ∧ (filter?.isSome → items ≠ []) := by
    rw [bind_eq_ok_iff]
    constructor
    · intro h
      obtain ⟨found, hread, h⟩ := h
      split_ifs at h with hnone
      obtain rfl := Except.ok.inj h
      exact ⟨hread, fun hsome hempty => hnone ⟨hsome, hempty⟩⟩
    · intro h
      refine ⟨filter?, h.1, ?_⟩
      rw [if_neg fun hnone => h.2 hnone.1 hnone.2]
  cases d <;> exact hcheck _

theorem decodeList?_eq_some_iff {d : Descriptor} {items : List Json} {filter : TypedFilter} :
    decodeList? d items = .ok (some filter) ↔ items ≠ [] ∧ OptionsSpelling d items filter := by
  rw [decodeList?_eq_ok_iff, and_comm]
  refine and_congr (by simp) ?_
  cases d with
  | string =>
    have hread := @stringOption_eq_ok_iff
    refine (map_options_eq_ok_iff_of_write (fun _ _ => hread) fun _ => rfl).trans ?_
    constructor
    · intro h
      obtain ⟨options, rfl, rfl⟩ := h
      exact .strings options
    · intro h
      cases h with
      | strings options => exact ⟨options, rfl, rfl⟩
  | number =>
    have haccepts (v d) (h : numberOption v = .ok d) : isTextOrNumber v = true := by
      cases numberOption_eq_ok_iff.1 h <;> rfl
    refine (map_options_eq_ok_iff haccepts).trans ?_
    simp only [numberOption_eq_ok_iff]
    constructor
    · intro h
      obtain ⟨options, hitems, rfl⟩ := h
      exact .numbers hitems
    · intro h
      cases h with
      | numbers hitems => exact ⟨_, hitems, rfl⟩
  | binary =>
    have hread := @binaryOption_eq_ok_iff
    refine (map_options_eq_ok_iff_of_write (fun _ _ => hread) fun _ => rfl).trans ?_
    constructor
    · intro h
      obtain ⟨options, rfl, rfl⟩ := h
      exact .binaries options
    · intro h
      cases h with
      | binaries options => exact ⟨options, rfl, rfl⟩
  | boolean =>
    have hread := @booleanOption_eq_ok_iff
    refine (map_options_eq_ok_iff_of_write (fun _ _ => hread) fun _ => rfl).trans ?_
    constructor
    · intro h
      obtain ⟨options, rfl, rfl⟩ := h
      exact .booleans options
    · intro h
      cases h with
      | booleans options => exact ⟨options, rfl, rfl⟩
  | _ =>
    simp only [readOptions, Except.ok.injEq, reduceCtorEq, false_iff]
    intro h
    cases h

/-- Only a type without alternatives leaves a list of literals to the rules. -/
theorem decodeList?_eq_none_iff {d : Descriptor} {items : List Json} :
    decodeList? d items = .ok none ↔ d ∉ optionTypes := by
  rw [decodeList?_eq_ok_iff]
  cases d <;> simp [readOptions, optionTypes]

theorem isScalar_iff {v : Json} : isScalar v = true ↔ IsLiteral v := by
  cases v <;> simp [isScalar, IsLiteral, Json.kind]

/-- Every alternative of a type is a literal, so that a list of them is never left to the rules. -/
theorem isLiteral_of_isOption {d : Descriptor} {v : Json} (h : IsOption d v) : IsLiteral v := by
  cases v with
  | null | array items | object members => cases d <;> exact absurd h id
  | _ => simp [IsLiteral, Json.kind]

theorem hasTypedShape_singleton_iff {d : Descriptor} {content : Json} :
    HasTypedShape [(d.name, content)] ↔
      (d ∈ optionTypes ∧ ∃ items, content = .array items ∧ ∀ item ∈ items, IsLiteral item) ∨
      (d = .null ∧ IsLiteral content) := by
  constructor
  · intro h
    generalize hmembers : [(d.name, content)] = members at h
    cases h with
    | @options d' items hd hitems =>
      obtain ⟨rfl, hcontent⟩ := Descriptor.singleton_inj.1 hmembers
      exact .inl ⟨hd, items, hcontent, hitems⟩
    | @null marker hmarker =>
      obtain ⟨hd, rfl⟩ := (@Descriptor.singleton_inj _ d .null content marker).1 hmembers
      exact .inr ⟨hd, hmarker⟩
  · intro h
    obtain ⟨hd, items, rfl, hitems⟩ | ⟨rfl, hcontent⟩ := h
    · exact .options hd hitems
    · exact .null hcontent

theorem spelling_singleton_iff {d : Descriptor} {content : Json} {filter : TypedFilter} :
    filter.Spelling [(d.name, content)] ↔
      (∃ items, content = .array items ∧ items ≠ [] ∧ OptionsSpelling d items filter) ∨
      (d = .null ∧ (content = .string "" ∨ content = .boolean true) ∧ .null = filter) := by
  constructor
  · intro h
    generalize hmembers : [(d.name, content)] = members at h
    cases h with
    | @options d' items _ hne h =>
      obtain ⟨rfl, hcontent⟩ := Descriptor.singleton_inj.1 hmembers
      exact .inl ⟨items, hcontent, hne, h⟩
    | @null marker hmarker =>
      obtain ⟨hd, rfl⟩ := (@Descriptor.singleton_inj _ d .null content marker).1 hmembers
      exact .inr ⟨hd, hmarker, rfl⟩
  · intro h
    obtain ⟨items, rfl, hne, h⟩ | ⟨rfl, hmarker, rfl⟩ := h
    · exact .options hne h
    · exact .null hmarker

theorem decodeContent?_array {d : Descriptor} {items : List Json} :
    decodeContent? d (.array items) =
      if items.all isScalar then decodeList? d items else .ok none := by
  cases d <;> rfl

theorem decodeContent?_eq_some_iff {d : Descriptor} {content : Json} {filter : TypedFilter} :
    decodeContent? d content = .ok (some filter) ↔ filter.Spelling [(d.name, content)] := by
  rw [spelling_singleton_iff]
  cases content with
  | array items =>
    rw [decodeContent?_array]
    constructor
    · intro h
      split_ifs at h
      · exact .inl ⟨items, rfl, decodeList?_eq_some_iff.1 h⟩
      · cases h
    · intro h
      obtain ⟨_, ⟨⟩, hne, h⟩ | ⟨_, hmarker, _⟩ := h
      · have hoptions := (exists_optionsSpelling_iff.1 ⟨_, h⟩).2
        have hscalar : items.all isScalar = true :=
          List.all_eq_true.2 fun item hitem =>
            isScalar_iff.2 (isLiteral_of_isOption (hoptions item hitem))
        rw [if_pos hscalar]
        exact decodeList?_eq_some_iff.2 ⟨hne, h⟩
      · simp at hmarker
  | string s =>
    cases d with
    | null => by_cases hs : s = "" <;> simp [decodeContent?, hs]
    | _ => simp [decodeContent?]
  | boolean b =>
    cases d with
    | null => cases b <;> simp [decodeContent?]
    | _ => simp [decodeContent?]
  | _ => cases d <;> simp [decodeContent?]

theorem decodeContent?_eq_none_iff {d : Descriptor} {content : Json} :
    decodeContent? d content = .ok none ↔ ¬ HasTypedShape [(d.name, content)] := by
  rw [hasTypedShape_singleton_iff]
  cases content with
  | array items =>
    have hnot : ¬ IsLiteral (.array items) := by simp [IsLiteral, Json.kind]
    rw [decodeContent?_array]
    split_ifs with hscalar
    · simp only [List.all_eq_true, isScalar_iff] at hscalar
      simp only [decodeList?_eq_none_iff, hnot, and_false, or_false, Json.array.injEq,
        exists_eq_left', and_iff_left hscalar]
    · simp only [List.all_eq_true, isScalar_iff] at hscalar
      simp only [hnot, and_false, or_false, Json.array.injEq, exists_eq_left', hscalar,
        not_false_eq_true]
  | string s =>
    cases d with
    | null => by_cases hs : s = "" <;> simp [decodeContent?, hs, IsLiteral, Json.kind]
    | _ => simp [decodeContent?]
  | boolean b =>
    cases d with
    | null => cases b <;> simp [decodeContent?, IsLiteral, Json.kind]
    | _ => simp [decodeContent?]
  | _ => cases d <;> simp [decodeContent?, IsLiteral, Json.kind]

/-- Only an object with one key that names a type can be a typed filter. -/
theorem exists_name_of_hasTypedShape {members : List (String × Json)} (h : HasTypedShape members) :
    ∃ d : Descriptor, ∃ content, members = [(d.name, content)] := by
  cases h with
  | @options d items => exact ⟨d, .array items, rfl⟩
  | @null marker => exact ⟨.null, marker, rfl⟩

theorem hasTypedShape_of_spelling {members : List (String × Json)} {filter : TypedFilter}
    (h : filter.Spelling members) : HasTypedShape members := by
  cases h with
  | options hne h =>
    obtain ⟨hd, hoptions⟩ := exists_optionsSpelling_iff.1 ⟨_, h⟩
    exact .options hd fun item hitem => isLiteral_of_isOption (hoptions item hitem)
  | null hmarker => exact .null (by rcases hmarker with rfl | rfl <;> simp [IsLiteral, Json.kind])

/-- What an object is as a typed filter, once it is known which type its one key names. -/
theorem decode?_cases (path : List String) (members : List (String × Json)) :
    (∃ d : Descriptor, ∃ content, members = [(d.name, content)] ∧
      decode? path members = (decodeContent? d content).mapError (.invalidTypedFilter path d)) ∨
    (decode? path members = .ok none ∧ ¬ HasTypedShape members) := by
  by_cases h : ∃ d : Descriptor, ∃ content, members = [(d.name, content)]
  · obtain ⟨d, content, rfl⟩ := h
    refine .inl ⟨d, content, rfl, ?_⟩
    rw [decode?, Descriptor.ofName?_eq_some_iff.2 rfl]
  · refine .inr ⟨?_, fun hshape => h (exists_name_of_hasTypedShape hshape)⟩
    match members with
    | [] | _ :: _ :: _ => rfl
    | [(key, content)] =>
      simp only [decode?]
      cases hname : Descriptor.ofName? key with
      | none => rfl
      | some d => exact absurd ⟨d, content, by rw [Descriptor.ofName?_eq_some_iff.1 hname]⟩ h

theorem decode?_eq_some_iff {path : List String} {members : List (String × Json)}
    {filter : TypedFilter} :
    decode? path members = .ok (some filter) ↔ filter.Spelling members := by
  obtain ⟨d, content, rfl, heq⟩ | ⟨hnone, hshape⟩ := decode?_cases path members
  · rw [heq, mapError_eq_ok_iff, decodeContent?_eq_some_iff]
  · constructor
    · intro h
      rw [hnone] at h
      cases h
    · intro h
      exact absurd (hasTypedShape_of_spelling h) hshape

theorem decode?_eq_none_iff {path : List String} {members : List (String × Json)} :
    decode? path members = .ok none ↔ ¬ HasTypedShape members := by
  obtain ⟨d, content, rfl, heq⟩ | ⟨hnone, hshape⟩ := decode?_cases path members
  · rw [heq, mapError_eq_ok_iff, decodeContent?_eq_none_iff]
  · exact ⟨fun _ => hshape, fun _ => hnone⟩

end TypedFilter

namespace Pattern

/-- If the members of an object are read as what they spell, so is the keyed list of them. -/
theorem decodeChildren_eq_ok_iff_spelling {path : List String} {members : List (String × Json)}
    {children : List (String × Node)}
    (h : ∀ member ∈ members, ∀ (path : List String) (node : Node),
      Node.decode path member.2 = .ok node ↔ node.Spelling member.2) :
    decodeChildren path members = .ok children ↔
      children.map Prod.fst = members.map Prod.fst ∧
        List.Forall₂ Node.Spelling (members.map Prod.snd) (children.map Prod.snd) := by
  rw [decodeChildren_eq_ok_iff, ← forall₂_fields_iff]
  refine forall₂_congr_of_mem fun member hmember child => ?_
  rw [h member hmember]

theorem Node.decode_eq_ok_iff_spelling {v : Json} :
    ∀ (path : List String) (node : Node), Node.decode path v = .ok node ↔ node.Spelling v := by
  induction v with
  | array items =>
    intro path node
    rw [Node.decode_array_eq_ok_iff]
    constructor
    · intro h
      obtain ⟨rules, hrules, rfl⟩ := h
      obtain ⟨hne, h⟩ := Rule.decodeList_eq_ok_iff.1 hrules
      exact .rules hne h
    · intro h
      cases h with
      | rules hne h => exact ⟨_, Rule.decodeList_eq_ok_iff.2 ⟨hne, h⟩, rfl⟩
  | object members ih =>
    intro path node
    rw [Node.decode_object_eq_ok_iff]
    simp only [TypedFilter.decode?_eq_some_iff, TypedFilter.decode?_eq_none_iff,
      decodeChildren_eq_ok_iff_spelling ih]
    constructor
    · intro h
      obtain ⟨filter, hfilter, rfl⟩ | ⟨hshape, hne, children, ⟨hkeys, hnodes⟩, rfl⟩ := h
      · exact .typed hfilter
      · exact .object hshape hne hkeys hnodes
    · intro h
      cases h with
      | typed hfilter => exact .inl ⟨_, hfilter, rfl⟩
      | object hshape hne hkeys hnodes => exact .inr ⟨hshape, hne, _, ⟨hkeys, hnodes⟩, rfl⟩
  | _ =>
    intro path node
    constructor
    · intro h
      simp [Node.decode] at h
    · intro h
      cases h

/--
A value is read as a pattern exactly when it follows the grammar, and what it is read as is exactly
the tree that it spells: no key, alternative or rule is lost or taken for another.
-/
theorem decode_accepts_exactly_grammar (v : Json) :
    ((∃ p, decode v = .ok p) ↔ IsPattern v) ∧ ∀ p, decode v = .ok p ↔ p.Spelling v := by
  have hread (p : Pattern) : decode v = .ok p ↔ p.Spelling v := by
    rw [decode_eq_ok_iff]
    constructor
    · intro h
      obtain ⟨members, rfl, hne, hchildren⟩ := h
      obtain ⟨hkeys, hnodes⟩ :=
        (decodeChildren_eq_ok_iff_spelling fun _ _ => Node.decode_eq_ok_iff_spelling).1 hchildren
      exact .root hne hkeys hnodes
    · intro h
      cases h with
      | root hne hkeys hnodes =>
        refine ⟨_, rfl, hne, ?_⟩
        exact (decodeChildren_eq_ok_iff_spelling fun _ _ => Node.decode_eq_ok_iff_spelling).2
          ⟨hkeys, hnodes⟩
  refine ⟨?_, hread⟩
  rw [isPattern_iff]
  exact exists_congr hread

end Pattern

end ChangeSieve
