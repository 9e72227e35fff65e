import ChangeSieve.Proofs.Container

/-!
Faults of records. The shape that the record reader looks for is never too narrow for the decoder of
attribute values, and nothing but this decoder can fail while a record is read. A record fails with
the error of the first container that cannot be decoded.
-/
namespace ChangeSieve
open Outcome

namespace Record

/-- One key that names a type, over content of the shape of that type. -/
def HasContainerShape (v : Json) : Prop :=
  ∃ d content, v = Attribute.container d content ∧ d.fits content = true

/--
The objects of container shape that a walk through a value meets. It goes into arrays and into all
objects but those.
-/
inductive Meets : Json → Json → Prop where
  | container {v : Json} (hshape : HasContainerShape v) : Meets v v
  | item {items : List Json} {item met : Json} (hmem : item ∈ items) (h : Meets item met) :
      Meets (.array items) met
  | member {members : List (String × Json)} {member : String × Json} {met : Json}
      (hshape : ¬HasContainerShape (.object members)) (hmem : member ∈ members)
      (h : Meets member.2 met) : Meets (.object members) met

mutual

/--
What a walk meets, in its order: items as they follow each other, and members likewise, which is by
their keys in every value that was read.
-/
def containers : Json → List Json
  | .array items => containersOfItems items
  | .object members =>
    if isContainer members then [.object members] else containersOfMembers members
  | _ => []
  termination_by structural value => value

def containersOfItems : List Json → List Json
  | [] => []
  | v :: rest => containers v ++ containersOfItems rest
  termination_by structural items => items

def containersOfMembers : List (String × Json) → List Json
  | [] => []
  | (_, v) :: rest => containers v ++ containersOfMembers rest
  termination_by structural members => members

end

@[simp] theorem containersOfItems_eq_flatMap (items : List Json) :
    containersOfItems items = items.flatMap containers := by
  induction items with
  | nil => rfl
  | cons v rest ih => rw [containersOfItems, List.flatMap_cons, ih]

@[simp] theorem containersOfMembers_eq_flatMap (members : List (String × Json)) :
    containersOfMembers members = members.flatMap fun member => containers member.2 := by
  induction members with
  | nil => rfl
  | cons member rest ih => rw [containersOfMembers, List.flatMap_cons, ih]

theorem isContainer_iff_hasContainerShape {members : List (String × Json)} :
    isContainer members = true ↔ HasContainerShape (.object members) :=
  isContainer_iff

theorem not_hasContainerShape_array {items : List Json} : ¬HasContainerShape (.array items) := by
  rintro ⟨d, content, h, _⟩
  cases h

/-- The walk lists what it meets, and nothing else. -/
@[simp] theorem mem_containers_iff {v met : Json} : met ∈ containers v ↔ Meets v met := by
  induction v with
  | array items ih =>
    rw [containers, containersOfItems_eq_flatMap, List.mem_flatMap]
    constructor
    · rintro ⟨item, hitem, hmet⟩
      exact .item hitem ((ih item hitem).1 hmet)
    · rintro (hshape | ⟨hitem, hmet⟩)
      · exact absurd hshape not_hasContainerShape_array
      · exact ⟨_, hitem, (ih _ hitem).2 hmet⟩
  | object members ih =>
    by_cases hshape : isContainer members = true
    · rw [containers, if_pos hshape, List.mem_singleton]
      have hcontainer := isContainer_iff_hasContainerShape.1 hshape
      constructor
      · rintro rfl
        exact .container hcontainer
      · rintro (_ | _ | ⟨hother, _, _⟩)
        · rfl
        · exact absurd hcontainer hother
    · have hother := isContainer_iff_hasContainerShape.not.1 hshape
      rw [containers, if_neg hshape, containersOfMembers_eq_flatMap, List.mem_flatMap]
      constructor
      · rintro ⟨member, hmember, hmet⟩
        exact .member hother hmember ((ih member hmember).1 hmet)
      · rintro (hcontainer | _ | ⟨_, hmember, hmet⟩)
        · exact absurd hcontainer hother
        · exact ⟨_, hmember, (ih _ hmember).2 hmet⟩
  | _ =>
    simp only [containers, List.not_mem_nil, false_iff]
    rintro ⟨d, content, h, _⟩
    cases h

theorem decode_array_eq (items : List Json) :
    decode (.array items) = (items.mapM decode).map list := by
  rw [decode, decodeItems_eq_mapM]
  cases items.mapM decode <;> rfl

/-- Records fail where their containers do, and in the order of the walk. -/
theorem decode_eq_error_iff {v : Json} {e : ContentError} :
    decode v = .error e ↔ FirstError Attribute.decode (containers v) e := by
  induction v generalizing e with
  | array items ih =>
    rw [decode_array_eq, map_eq_error_iff, mapM_eq_error_iff, containers,
      containersOfItems_eq_flatMap, firstError_flatMap_iff]
    refine firstError_congr fun item hitem e => ?_
    rw [ih item hitem, mapM_eq_error_iff]
  | object members ih =>
    by_cases hshape : isContainer members = true
    · rw [decode_eq_of_isContainer hshape, map_eq_error_iff, containers, if_pos hshape,
        firstError_cons_iff]
      simp [not_firstError_nil]
    · rw [decode_eq_of_not_isContainer (eq_false_of_ne_true hshape), map_eq_error_iff,
        decodeMembers_eq_mapM, mapM_eq_error_iff, containers, if_neg hshape,
        containersOfMembers_eq_flatMap, firstError_flatMap_iff]
      refine firstError_congr fun member hmember e => ?_
      rw [map_eq_error_iff, ih member hmember, mapM_eq_error_iff]
  | _ => simp [decode, containers, not_firstError_nil]

/-- A record is a single attribute value only when the decoder of attribute values reads it. -/
theorem decode_eq_typed_iff {v : Json} {a : Attribute} :
    decode v = .ok (.typed a) ↔ Attribute.decode v = .ok a := by
  refine ⟨fun h => ?_, decode_of_decode_attribute⟩
  cases v with
  | array items =>
    rw [decode_array_eq, map_eq_ok_iff] at h
    obtain ⟨_, _, hlist⟩ := h
    cases hlist
  | object members =>
    by_cases hshape : isContainer members = true
    · rw [decode_eq_of_isContainer hshape, map_eq_ok_iff] at h
      obtain ⟨b, hb, hsame⟩ := h
      rwa [typed.inj hsame] at hb
    · rw [decode_eq_of_not_isContainer (eq_false_of_ne_true hshape), map_eq_ok_iff] at h
      obtain ⟨_, _, hobject⟩ := h
      cases hobject
  | _ => cases h

/--
The shape of containers agrees with the decoder of attribute values. A record is a typed value
exactly when this decoder takes it, and content that has not the shape of its type is never taken.
A record cannot be read exactly when the walk through it meets a container that the decoder rejects,
and it fails with the error of the first one.
-/
theorem decode_agrees_with_attribute_decoder (v : Json) :
    (∀ a, decode v = .ok (.typed a) ↔ Attribute.decode v = .ok a) ∧
    (∀ d content, d.fits content = false →
      ∀ a, Attribute.decode (Attribute.container d content) ≠ .ok a) ∧
    ((∃ e, decode v = .error e) ↔ ∃ met, Meets v met ∧ ∃ e, Attribute.decode met = .error e) ∧
    (∀ e, decode v = .error e ↔ FirstError Attribute.decode (containers v) e) ∧
    ∀ met, met ∈ containers v ↔ Meets v met := by
  refine ⟨fun a => decode_eq_typed_iff, ?_, ?_, fun e => decode_eq_error_iff,
    fun met => mem_containers_iff⟩
  · intro d content hfits a h
    rw [Attribute.decode_container] at h
    rw [Attribute.fits_of_decodeContent h] at hfits
    cases hfits
  · simp only [decode_eq_error_iff, exists_firstError_iff, mem_containers_iff]

end Record

end ChangeSieve
