import ChangeSieve.Delivery
import ChangeSieve.Proofs.Fields
import ChangeSieve.Proofs.Reading
import ChangeSieve.Proofs.TextParts
import Mathlib.Data.List.Nodup

/-!
Matching by positions. A pattern admits a record exactly when each of its filters holds of what the
record has under the keys that lead to the filter.
-/
namespace ChangeSieve
open Outcome

namespace Record

/-- Nothing but an object has a part under a key. -/
theorem get?_eq_none {r : Record} (h : ∀ fields, r ≠ .object fields) (key : String) :
    r.get? key = none := by
  cases r with
  | object fields => exact absurd rfl (h fields)
  | _ => rfl

@[simp] theorem follow?_append (r : Record) (before after : List String) :
    r.follow? (before ++ after) = (r.follow? before).bind (·.follow? after) := by
  induction before generalizing r with
  | nil => rfl
  | cons key before ih =>
    rw [List.cons_append, follow?, follow?]
    cases r.get? key with
    | none => rfl
    | some child => exact ih child

/-- A walk that stops short reaches nothing, whatever keys were still to come. -/
theorem follow?_stopped {r part : Record} {before : List String} {key : String}
    (hr : r.follow? before = some part) (hpart : part.get? key = none) (after : List String) :
    r.follow? (before ++ key :: after) = none := by
  rw [follow?_append, hr]
  simp [follow?, hpart]

/-- Keys without dots can be written as one path. -/
theorem pointer?_intercalate (r : Record) {keys : List String} (hne : keys ≠ [])
    (hdots : ∀ key ∈ keys, '.' ∉ key.toList) :
    r.pointer? (".".intercalate keys) = r.follow? keys := by
  have hparts : ∀ part ∈ keys.map String.toList, '.' ∉ part := by simpa using hdots
  have hsplit : Text.split '.' (".".intercalate keys).toList = keys.map String.toList := by
    rw [String.toList_intercalate]
    exact Text.split_intercalate (by simpa using hne) hparts
  rw [pointer?, hsplit]
  simp

end Record

namespace Pattern

/-- `node.Leads keys filter` says that the keys lead from the node down to the filter. -/
inductive Node.Leads : Node → List String → Filter → Prop where
  | leaf (filter : Filter) : Leads (.leaf filter) [] filter
  | child {children : List (String × Node)} {key : String} {node : Node} {keys : List String}
      {filter : Filter} (mem : (key, node) ∈ children) (rest : node.Leads keys filter) :
      Leads (.object children) (key :: keys) filter

def Leads (p : Pattern) (keys : List String) (filter : Filter) : Prop :=
  (Node.object p.root).Leads keys filter

@[simp] theorem leavesOf_eq_flatMap (children : List (String × Node)) :
    leavesOf children =
      children.flatMap fun child => child.2.leaves.map fun leaf => (child.1 :: leaf.1, leaf.2) := by
  induction children with
  | nil => rfl
  | cons child rest ih => simp [leavesOf, ih]

theorem leafCounts_eq_length {children : List (String × Node)}
    (h : ∀ child ∈ children, child.2.leafCount = child.2.leaves.length) :
    leafCounts children = (leavesOf children).length := by
  induction children with
  | nil => rfl
  | cons child rest ih =>
    obtain ⟨hchild, hrest⟩ := List.forall_mem_cons.1 h
    simp only [leafCounts, leavesOf, List.length_append, List.length_map, hchild, ih hrest]

@[simp] theorem childrenAdmit_eq_all (children : List (String × Node)) (r : Option Record) :
    childrenAdmit children r =
      children.all fun child => child.2.admits (r.bind (·.get? child.1)) := by
  induction children with
  | nil => rfl
  | cons child rest ih => simp [childrenAdmit, ih]

/-- A node judges a part by what a filter sees of it and by its own parts. -/
theorem Node.admits_congr {r r' : Record} (hsubject : Subject.ofRecord r = Subject.ofRecord r')
    (hparts : ∀ key (node : Node), node.admits (r.get? key) = node.admits (r'.get? key))
    (node : Node) : node.admits (some r) = node.admits (some r') := by
  cases node with
  | leaf filter => exact congrArg filter.holds hsubject
  | object children =>
    simp only [admits, childrenAdmit_eq_all, Option.bind_some, hparts]

theorem Node.mem_leaves_iff {node : Node} {keys : List String} {filter : Filter} :
    (keys, filter) ∈ node.leaves ↔ node.Leads keys filter := by
  induction node generalizing keys with
  | leaf own =>
    constructor
    · intro h
      obtain ⟨rfl, rfl⟩ : keys = [] ∧ filter = own := by simpa [leaves] using h
      exact .leaf filter
    · intro h
      cases h
      simp [leaves]
  | object children ih =>
    simp only [leaves, leavesOf_eq_flatMap, List.mem_flatMap, List.mem_map, Prod.mk.injEq]
    constructor
    · intro h
      obtain ⟨⟨key, node⟩, hchild, ⟨rest, own⟩, hleaf, rfl, rfl⟩ := h
      exact .child hchild ((ih _ hchild).1 hleaf)
    · intro h
      rcases h with _ | @⟨_, key, node, rest, _, hchild, hrest⟩
      exact ⟨(key, node), hchild, (rest, filter), (ih _ hchild).2 hrest, rfl, rfl⟩

theorem Node.leafCount_eq_length (node : Node) : node.leafCount = node.leaves.length := by
  induction node with
  | leaf filter => rfl
  | object children ih =>
    rw [leafCount, leaves]
    exact leafCounts_eq_length ih

/-- A node holds of what it sees when each filter below it holds of what is seen under its keys. -/
theorem Node.admits_iff {node : Node} {r : Option Record} :
    node.admits r = true ↔ ∀ keys filter, node.Leads keys filter →
      filter.holds (Subject.ofRecord? (r.bind (·.follow? keys))) = true := by
  induction node generalizing r with
  | leaf own =>
    have hself : (r.bind fun part => part.follow? []) = r := by cases r <;> rfl
    constructor
    · rintro h _ _ ⟨⟩
      rw [hself]
      exact h
    · intro h
      have hown := h [] own (.leaf own)
      rwa [hself] at hown
  | object children ih =>
    have hstep (key : String) (keys : List String) :
        ((r.bind (·.get? key)).bind fun part => part.follow? keys) =
          r.bind fun part => part.follow? (key :: keys) := by
      cases r <;> rfl
    simp only [admits, childrenAdmit_eq_all, List.all_eq_true]
    constructor
    · rintro h _ filter (_ | @⟨_, key, node, keys, _, hchild, hrest⟩)
      rw [← hstep]
      exact (ih _ hchild).1 (h _ hchild) keys filter hrest
    · rintro h ⟨key, node⟩ hchild
      refine (ih _ hchild).2 fun keys filter hrest => ?_
      rw [hstep]
      exact h _ filter (.child hchild hrest)

theorem admits_iff {p : Pattern} {r : Record} :
    p.admits r = true ↔ ∀ keys filter, p.Leads keys filter →
      filter.holds (Subject.ofRecord? (r.follow? keys)) = true :=
  @Node.admits_iff (.object p.root) (some r)

theorem mem_leaves_iff {p : Pattern} {keys : List String} {filter : Filter} :
    (keys, filter) ∈ p.leaves ↔ p.Leads keys filter :=
  @Node.mem_leaves_iff (.object p.root) keys filter

theorem leafCount_eq_length (p : Pattern) : p.leafCount = p.leaves.length :=
  Node.leafCount_eq_length (.object p.root)

/-- Under different keys there are different positions. -/
theorem nodup_leavesOf {children : List (String × Node)}
    (hkeys : (children.map Prod.fst).Nodup)
    (hbelow : ∀ child ∈ children, child.2.leaves.Nodup) : (leavesOf children).Nodup := by
  rw [leavesOf_eq_flatMap, List.nodup_flatMap]
  constructor
  · intro child hchild
    refine (hbelow child hchild).map ?_
    rintro ⟨keys, filter⟩ ⟨keys', filter'⟩ h
    simpa using h
  · refine (List.pairwise_map.1 hkeys).imp ?_
    intro a b hab
    simp only [Function.onFun, List.disjoint_left, List.mem_map]
    rintro _ ⟨leaf, _, rfl⟩ ⟨other, _, h⟩
    exact hab (by simpa using (congrArg (fun leaf => leaf.1.head?) h).symm)

theorem nodup_leavesOf_of_decodeChildren {path : List String} {members : List (String × Json)}
    {children : List (String × Node)} (h : decodeChildren path members = .ok children)
    (hsorted : Fields.Sorted members)
    (hbelow : ∀ member ∈ members, ∀ path node, Node.decode path member.2 = .ok node →
      node.leaves.Nodup) : (leavesOf children).Nodup := by
  have hpairs := decodeChildren_eq_ok_iff.1 h
  apply nodup_leavesOf
  · rw [keys_of_decodeChildren h]
    refine List.pairwise_map.2 (hsorted.imp ?_)
    intro a b hlt heq
    exact String.lt_irrefl b.1 (heq ▸ hlt)
  · intro child hchild
    obtain ⟨member, hmember, _, hnode⟩ := exists_left_of_forall₂ hpairs hchild
    exact hbelow member hmember _ _ hnode

/-- Keys that are in order are all different, so no two filters of a node have the same keys. -/
theorem Node.nodup_leaves_of_decode {path : List String} {v : Json} {node : Node}
    (h : Node.decode path v = .ok node) (hv : v.Sorted) : node.leaves.Nodup := by
  induction v generalizing path node with
  | array items =>
    obtain ⟨rules, _, rfl⟩ := Node.decode_array_eq_ok_iff.1 h
    simp [leaves]
  | object members ih =>
    obtain ⟨filter, _, rfl⟩ | ⟨_, _, children, hchildren, rfl⟩ :=
      Node.decode_object_eq_ok_iff.1 h
    · simp [leaves]
    · refine nodup_leavesOf_of_decodeChildren hchildren hv.1 ?_
      intro member hmember path node hnode
      exact ih member hmember hnode (Json.sortedMembers_iff.1 hv.2 member hmember)
  | _ => simp [Node.decode] at h

theorem nodup_leaves_of_decode {v : Json} {p : Pattern} (h : decode v = .ok p) (hv : v.Sorted) :
    p.leaves.Nodup := by
  obtain ⟨members, rfl, _, hchildren⟩ := decode_eq_ok_iff.1 h
  refine nodup_leavesOf_of_decodeChildren hchildren hv.1 ?_
  intro member hmember path node hnode
  exact Node.nodup_leaves_of_decode hnode (Json.sortedMembers_iff.1 hv.2 member hmember)

end Pattern

/-- A delivery is a disjunction over patterns of conjunctions over positions: a record is delivered
when there are no patterns, or when each filter of some pattern holds of what the record has under
the keys that lead to the filter. A walk stops for good where a key is missing or has nothing to be
looked up in, and keys without dots are walked alike when they are written as one path. -/
theorem DeliveryFilter.allows_iff_leaves_hold {values : List Json} {filter : DeliveryFilter}
    (h : DeliveryFilter.ofValues values = .ok filter) (r : Record) :
    (filter.allows r = true ↔ values = [] ∨ ∃ v ∈ values, ∃ p, Pattern.decode v = .ok p ∧
      ∀ keys leaf, p.Leads keys leaf →
        leaf.holds (Subject.ofRecord? (r.follow? keys)) = true) ∧
    (∀ before key after part, r.follow? before = some part →
      (part.get? key = none ∨ ∀ fields, part ≠ .object fields) →
        r.follow? (before ++ key :: after) = none) ∧
    ∀ v ∈ values, ∀ p, Pattern.decode v = .ok p →
      (∀ keys leaf, p.Leads keys leaf → keys ≠ [] ∧
        ((∀ key ∈ keys, '.' ∉ key.toList) →
          r.follow? keys = r.pointer? (".".intercalate keys))) ∧
      (∀ keys leaf, (keys, leaf) ∈ p.leaves ↔ p.Leads keys leaf) ∧
      (v.Sorted → p.leaves.Nodup) ∧ p.leafCount = p.leaves.length := by
  obtain ⟨patterns, hpatterns, rfl⟩ := map_eq_ok_iff.1 h
  have hread := mapM_eq_ok_iff.1 hpatterns
  have hempty : patterns = [] ↔ values = [] := by cases hread <;> simp
  refine ⟨?_, ?_, ?_⟩
  · simp only [allows, Bool.or_eq_true, List.isEmpty_iff, hempty, Pattern.anyAdmits,
      List.any_eq_true, Pattern.admits_iff]
    refine or_congr_right ⟨?_, ?_⟩
    · intro h'
      obtain ⟨p, hp, hleaves⟩ := h'
      obtain ⟨v, hv, hdecode⟩ := exists_left_of_forall₂ hread hp
      exact ⟨v, hv, p, hdecode, hleaves⟩
    · intro h'
      obtain ⟨v, hv, p, hdecode, hleaves⟩ := h'
      obtain ⟨q, hq, hdecode'⟩ := exists_right_of_forall₂ hread hv
      obtain rfl : p = q := Except.ok.inj (hdecode.symm.trans hdecode')
      exact ⟨p, hq, hleaves⟩
  · rintro before key after part hpart (hkey | hobject)
    · exact Record.follow?_stopped hpart hkey after
    · exact Record.follow?_stopped hpart (Record.get?_eq_none hobject key) after
  · intro v _ p hdecode
    refine ⟨?_, fun _ _ => Pattern.mem_leaves_iff, Pattern.nodup_leaves_of_decode hdecode,
      p.leafCount_eq_length⟩
    intro keys leaf hleads
    have hne : keys ≠ [] := by cases hleads; simp
    exact ⟨hne, fun hdots => (Record.pointer?_intercalate r hne hdots).symm⟩

/-- Below a text everything is absent, which is what the one filter of this pattern asks for. -/
theorem DeliveryFilter.allows_below_text :
    let absent := Json.array [.object [("exists", .boolean false)]]
    let values := [Json.object [("a", .object [("b", absent)])]]
    let r := Record.object [("a", .string "x")]
    ∃ filter, DeliveryFilter.ofValues values = .ok filter ∧ filter.allows r = true ∧
      (filter.allows r = true ↔ values = [] ∨ ∃ v ∈ values, ∃ p, Pattern.decode v = .ok p ∧
        ∀ keys leaf, p.Leads keys leaf →
          leaf.holds (Subject.ofRecord? (r.follow? keys)) = true) := by
  refine ⟨_, rfl, rfl, (DeliveryFilter.allows_iff_leaves_hold rfl _).1⟩

end ChangeSieve
