import ChangeSieve.Pattern.Decode
import ChangeSieve.Proofs.Induction
import ChangeSieve.Proofs.Outcome

/-! What reading a pattern yields at each kind of value. -/
namespace ChangeSieve

namespace Pattern
open Outcome

/-- Children are read under their own keys and in their order. -/
theorem decodeChildren_eq_ok_iff {path : List String} {members : List (String × Json)}
    {children : List (String × Node)} :
    decodeChildren path members = .ok children ↔
      List.Forall₂ (fun member child =>
        child.1 = member.1 ∧ Node.decode (path ++ [member.1]) member.2 = .ok child.2)
        members children := by
  induction members generalizing children with
  | nil => cases children <;> simp [decodeChildren]
  | cons member rest ih =>
    simp only [decodeChildren, bind_eq_ok_iff, pure_eq_ok_iff, ih]
    constructor
    · intro h
      obtain ⟨node, hnode, tail, htail, rfl⟩ := h
      exact .cons ⟨rfl, hnode⟩ htail
    · intro h
      rcases h with _ | @⟨_, ⟨key, node⟩, _, _, ⟨rfl, hnode⟩, htail⟩
      exact ⟨node, hnode, _, htail, rfl⟩

theorem keys_of_decodeChildren {path : List String} {members : List (String × Json)}
    {children : List (String × Node)} (h : decodeChildren path members = .ok children) :
    children.map Prod.fst = members.map Prod.fst := by
  have hpairs := decodeChildren_eq_ok_iff.1 h
  exact (forall₂_fields_iff (R := fun _ _ => True).1
    (hpairs.imp fun _ _ hpair => ⟨hpair.1, trivial⟩)).1

theorem Node.decode_array_eq_ok_iff {path : List String} {items : List Json} {node : Node} :
    Node.decode path (.array items) = .ok node ↔
      ∃ rules, Rule.decodeList path items = .ok rules ∧ .leaf (.rules rules) = node := by
  simp only [Node.decode, bind_eq_ok_iff, pure_eq_ok_iff]

/-- An object is a typed filter if it can be one, and else a node with children. -/
theorem Node.decode_object_eq_ok_iff {path : List String} {members : List (String × Json)}
    {node : Node} :
    Node.decode path (.object members) = .ok node ↔
      (∃ filter, TypedFilter.decode? path members = .ok (some filter) ∧
        .leaf (.typed filter) = node) ∨
      (TypedFilter.decode? path members = .ok none ∧ members ≠ [] ∧
        ∃ children, decodeChildren path members = .ok children ∧ .object children = node) := by
  simp only [Node.decode, bind_eq_ok_iff]
  constructor
  · intro h
    obtain ⟨_ | filter, hfilter, hnode⟩ := h
    · by_cases hne : members = []
      · simp [hne] at hnode
      · simp only [List.isEmpty_eq_false_iff.2 hne, Bool.false_eq_true, ↓reduceIte,
          bind_eq_ok_iff, pure_eq_ok_iff] at hnode
        exact .inr ⟨hfilter, hne, hnode⟩
    · exact .inl ⟨filter, hfilter, pure_eq_ok_iff.1 hnode⟩
  · intro h
    rcases h with ⟨filter, hfilter, rfl⟩ | ⟨hnone, hne, children, hchildren, rfl⟩
    · exact ⟨some filter, hfilter, rfl⟩
    · refine ⟨none, hnone, ?_⟩
      simp only [List.isEmpty_eq_false_iff.2 hne, Bool.false_eq_true, ↓reduceIte, hchildren]
      rfl

theorem decode_eq_ok_iff {v : Json} {p : Pattern} :
    decode v = .ok p ↔
      ∃ members, v = .object members ∧ members ≠ [] ∧ decodeChildren [] members = .ok p.root := by
  cases v with
  | object members =>
    by_cases hne : members = [] <;> cases p <;> simp [decode, hne]
  | _ => simp [decode]

end Pattern

end ChangeSieve
