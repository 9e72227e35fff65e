import ChangeSieve.Proofs.OwnFilter

/-!
Filters where there is nothing to compare. A position that a record lacks satisfies only a rule that
asks for absence, and a list, a map or a set satisfies only one that asks for presence.
-/
namespace ChangeSieve

/-- A part of a record that rules cannot compare: a list, a map, a set, or the null that says `false`. -/
inductive Record.Incomparable : Record → Prop where
  | list (items : List Record) : Incomparable (.list items)
  | object (fields : List (String × Record)) : Incomparable (.object fields)
  | stringSet (members : List String) : Incomparable (.typed (.stringSet members))
  | numberSet (members : List String) : Incomparable (.typed (.numberSet members))
  | binarySet (members : List (List UInt8)) : Incomparable (.typed (.binarySet members))
  | typedList (items : List Attribute) : Incomparable (.typed (.list items))
  | typedMap (entries : List (String × Attribute)) : Incomparable (.typed (.map entries))
  | notNull : Incomparable (.typed (.null false))

theorem Subject.ofRecord_of_incomparable {part : Record} (h : part.Incomparable) :
    ofRecord part = .unsupported := by
  cases h <;> rfl

@[simp] theorem TypedFilter.holds_unsupported (filter : TypedFilter) :
    filter.holds .unsupported = false := by
  cases filter <;> rfl

namespace Rule
variable {rule : Rule}

@[simp] theorem holds_absent_iff : rule.holds .absent = true ↔ rule = .presence false := by
  cases rule with
  | presence wanted => cases wanted <;> simp [holds, Subject.isPresent]
  | _ => simp [holds]

@[simp] theorem holds_unsupported_iff : rule.holds .unsupported = true ↔ rule = .presence true := by
  cases rule with
  | presence wanted => cases wanted <;> simp [holds, Subject.isPresent]
  | _ => simp [holds]

end Rule

namespace Filter
variable {filter : Filter}

/-- A rule list that asks whether there is anything, and wants a given answer. -/
def AsksPresence (wanted : Bool) (filter : Filter) : Prop :=
  ∃ rules, filter = .rules rules ∧ .presence wanted ∈ rules

@[simp] theorem holds_absent_iff : filter.holds .absent = true ↔ filter.AsksPresence false := by
  cases filter <;> simp [holds, AsksPresence]

@[simp] theorem holds_unsupported_iff : filter.holds .unsupported = true ↔ filter.AsksPresence true := by
  cases filter <;> simp [holds, AsksPresence]

end Filter

namespace Pattern
variable {p : Pattern} {r : Record} {keys : List String} {filter : Filter}

/-- Where nothing can be looked up, every filter of a pattern sees absence. -/
theorem admits_iff_of_get?_eq_none (h : ∀ key, r.get? key = none) :
    p.admits r = true ↔ ∀ keys filter, p.Leads keys filter → filter.AsksPresence false := by
  have hnone (keys : List String) (filter : Filter) (hleads : p.Leads keys filter) :
      r.follow? keys = none := by
    cases hleads with
    | @child _ key _ rest =>
      unfold Record.follow?
      rw [h key]
      rfl
  rw [admits_iff]
  constructor
  · intro hall keys filter hleads
    have hholds := hall keys filter hleads
    rw [hnone keys filter hleads] at hholds
    exact Filter.holds_absent_iff.1 hholds
  · intro hall keys filter hleads
    rw [hnone keys filter hleads]
    exact Filter.holds_absent_iff.2 (hall keys filter hleads)

/--
What a pattern admits without having anything to compare. Under the keys of each filter of a pattern
that admits a record, absence is answered by a rule that asks for it, and a list, a map or a set by a
rule that asks for presence. A record without fields is judged as the empty object is, and admitted
when every filter asks for absence.
-/
theorem admits_without_value_only_by_presence (p : Pattern) (r : Record) :
    (p.admits r = true → ∀ keys filter, p.Leads keys filter →
      (r.follow? keys = none → filter.AsksPresence false) ∧
      ∀ part, r.follow? keys = some part → part.Incomparable → filter.AsksPresence true) ∧
    ((∀ fields, r ≠ .object fields) →
      p.admits r = p.admits (.object []) ∧
      (p.admits r = true ↔
        ∀ keys filter, p.Leads keys filter → filter.AsksPresence false)) := by
  constructor
  · intro hadmits keys filter hleads
    have hholds := admits_iff.1 hadmits keys filter hleads
    constructor
    · intro hnone
      rw [hnone] at hholds
      exact Filter.holds_absent_iff.1 hholds
    · intro part hpart hincomparable
      rw [hpart] at hholds
      change filter.holds (Subject.ofRecord part) = true at hholds
      rw [Subject.ofRecord_of_incomparable hincomparable] at hholds
      exact Filter.holds_unsupported_iff.1 hholds
  · intro hobject
    have hrecord := admits_iff_of_get?_eq_none (p := p) (Record.get?_eq_none hobject)
    have hempty := admits_iff_of_get?_eq_none (p := p) (r := .object []) fun _ => rfl
    exact ⟨Bool.eq_iff_iff.2 (hrecord.trans hempty.symm), hrecord⟩

/-- A pattern that asks for the absence of `a.b` and for the presence of `c`, at a text and at a set. -/
theorem admits_text_below_and_set :
    let p : Pattern := ⟨[("a", .object [("b", .leaf (.rules [.null, .presence false]))]),
      ("c", .leaf (.rules [.empty, .presence true]))]⟩
    let r : Record := .object [("a", .string "b"), ("c", .typed (.stringSet ["x"]))]
    p.admits r = true ∧ Filter.AsksPresence false (.rules [.null, .presence false]) ∧
      Filter.AsksPresence true (.rules [.empty, .presence true]) ∧
      p.admits (.string "b") = p.admits (.object []) := by
  intro p r
  have hadmits : p.admits r = true := rfl
  have hb : p.Leads ["a", "b"] (.rules [.null, .presence false]) :=
    .child List.mem_cons_self (.child List.mem_cons_self (.leaf _))
  have hc : p.Leads ["c"] (.rules [.empty, .presence true]) :=
    .child (List.mem_cons_of_mem _ List.mem_cons_self) (.leaf _)
  have hfilters := (admits_without_value_only_by_presence p r).1 hadmits
  have htext := (admits_without_value_only_by_presence p (.string "b")).2 (by simp)
  exact ⟨hadmits, (hfilters _ _ hb).1 rfl, (hfilters _ _ hc).2 _ rfl (.stringSet ["x"]), htext.1⟩

end Pattern

end ChangeSieve
