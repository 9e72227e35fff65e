import ChangeSieve.Proofs.Container
import ChangeSieve.Proofs.Fields

/-!
Item images: objects whose members are attribute values. An image is walked by the names of its
attributes, also by those that name a type, unless it has one attribute and that is named `M`: the
value of the attribute then passes for the content of a map, which it never is.
-/
namespace ChangeSieve
open Outcome

theorem Descriptor.fits_object_iff {d : Descriptor} {members : List (String × Json)} :
    d.fits (.object members) = true ↔ d = .map := by
  cases d <;> simp [fits]

namespace Attribute

/-- Only the content of a map can be an attribute value itself. -/
theorem eq_map_of_decode_content {d : Descriptor} {content : Json} {a : Attribute}
    (hfits : d.fits content = true) (h : decode content = .ok a) : d = .map := by
  obtain ⟨d', inner, rfl, _⟩ := exists_container_of_decode h
  exact Descriptor.fits_object_iff.1 hfits

theorem exists_decode_of_decode_map {members : List (String × Json)} {a : Attribute}
    (h : decode (container .map (.object members)) = .ok a) {member : String × Json}
    (hmem : member ∈ members) : ∃ b, decode member.2 = .ok b := by
  simp only [decode_container, decodeContent, bind_eq_ok_iff, decodeEntries_eq_mapM,
    mapM_eq_ok_iff] at h
  obtain ⟨entries, hentries, _⟩ := h
  obtain ⟨entry, _, hread⟩ := exists_right_of_forall₂ hentries hmem
  obtain ⟨b, hb, _⟩ := map_eq_ok_iff.1 hread
  exact ⟨b, hb⟩

/-- No attribute value is the content of a map, since its content would have to be one in turn. -/
theorem not_decode_map_of_decode {v : Json} {a b : Attribute} (h : decode v = .ok a) :
    decode (container .map v) ≠ .ok b := by
  induction v generalizing a b with
  | object members ih =>
    intro hmap
    obtain ⟨d, content, heq, hcontent⟩ := exists_container_of_decode h
    have hmembers : members = [(d.name, content)] := Json.object.inj heq
    have hmem : (d.name, content) ∈ members := by rw [hmembers]; exact List.mem_singleton_self _
    obtain ⟨c, hc⟩ := exists_decode_of_decode_map hmap hmem
    obtain rfl := eq_map_of_decode_content (fits_of_decodeContent hcontent) hc
    -- the same holds one level down, where the value is the content
    rw [heq] at h
    exact ih _ hmem hc h
  | _ =>
    obtain ⟨d, content, heq, _⟩ := exists_container_of_decode h
    cases heq

end Attribute

namespace Record

def IsAttribute (v : Json) (r : Record) : Prop := ∃ a, Attribute.decode v = .ok a ∧ r = typed a

/-- An object each of whose members is an attribute value, under whatever name. -/
def IsImage (image : List (String × Json)) : Prop :=
  ∀ member ∈ image, ∃ a, Attribute.decode member.2 = .ok a

/-- The fields of an image have its keys, and under each key the attribute that it has there. -/
def IsWalk (image : List (String × Json)) (fields : List (String × Record)) : Prop :=
  fields.map Prod.fst = image.map Prod.fst ∧
    ∀ key value, Fields.get? key image = some value →
      ∃ r, Fields.get? key fields = some r ∧ IsAttribute value r

variable {image : List (String × Json)}

/-- The reader mistakes an image for a container only under the name of a map. -/
theorem isContainer_iff_of_isImage (h : IsImage image) :
    isContainer image = true ↔ ∃ value, image = [("M", value)] := by
  constructor
  · intro hshape
    obtain ⟨d, content, heq, hfits⟩ := isContainer_iff.1 hshape
    obtain rfl : image = [(d.name, content)] := Json.object.inj heq
    obtain ⟨a, ha⟩ := h _ (List.mem_singleton_self _)
    obtain rfl := Attribute.eq_map_of_decode_content hfits ha
    exact ⟨content, rfl⟩
  · intro hshape
    obtain ⟨value, rfl⟩ := hshape
    obtain ⟨a, ha⟩ := h _ (List.mem_singleton_self _)
    obtain ⟨d, content, rfl, _⟩ := Attribute.exists_container_of_decode ha
    rfl

/-- Read member by member, an image has its attributes as fields. -/
theorem decodeMembers_of_isImage (h : IsImage image) :
    ∃ fields, decodeMembers image = .ok fields ∧ IsWalk image fields := by
  have hfields : ∃ fields : List (String × Record), List.Forall₂
      (fun member field => field.1 = member.1 ∧ IsAttribute member.2 field.2) image fields := by
    refine (exists_forall₂_iff fun member _ => ?_).2 h
    constructor
    · intro hmember
      obtain ⟨a, ha⟩ := hmember
      exact ⟨(member.1, typed a), rfl, a, ha, rfl⟩
    · intro hfield
      obtain ⟨field, _, a, ha, _⟩ := hfield
      exact ⟨a, ha⟩
  obtain ⟨fields, hfields⟩ := hfields
  refine ⟨fields, ?_, (forall₂_fields_iff.1 hfields).1, fun key value =>
    Fields.get?_of_forall₂ hfields⟩
  rw [decodeMembers_eq_mapM, mapM_eq_ok_iff]
  refine hfields.imp fun member field hpair => ?_
  obtain ⟨hkey, a, ha, hfield⟩ := hpair
  rw [decode_of_decode_attribute ha, ← hkey, ← hfield]
  rfl

/--
An image is read as the object of its attributes exactly when it is not one attribute under the name
`M`; an image that is one is not read at all.
-/
theorem decode_image_iff (h : IsImage image) :
    ((∃ fields, decode (.object image) = .ok (.object fields) ∧ IsWalk image fields) ↔
      ∀ value, image ≠ [("M", value)]) ∧
    ∀ value, image = [("M", value)] → ∃ error, decode (.object image) = .error error := by
  have hsingle : ∀ value, image = [("M", value)] →
      ∃ error, decode (.object image) = .error error := by
    intro value himage
    have hshape := (isContainer_iff_of_isImage h).2 ⟨value, himage⟩
    subst himage
    obtain ⟨a, ha⟩ := h _ (List.mem_singleton_self _)
    rw [decode_eq_of_isContainer hshape]
    cases hmap : Attribute.decode (.object [("M", value)]) with
    | ok b => exact absurd hmap (Attribute.not_decode_map_of_decode ha)
    | error error => exact ⟨error, rfl⟩
  refine ⟨⟨?_, ?_⟩, hsingle⟩
  · intro hread value himage
    obtain ⟨fields, hfields, _⟩ := hread
    obtain ⟨error, herror⟩ := hsingle value himage
    rw [herror] at hfields
    cases hfields
  · intro hne
    have hshape : isContainer image = false := by
      rw [← Bool.not_eq_true, isContainer_iff_of_isImage h]
      exact fun hsome => hsome.elim hne
    obtain ⟨fields, hfields, hwalk⟩ := decodeMembers_of_isImage h
    refine ⟨fields, ?_, hwalk⟩
    rw [decode_eq_of_not_isContainer hshape, hfields]
    rfl

/-- Two attributes that are named like types, one of them like a map, are walked. -/
theorem decode_image_of_type_names :
    let image := [("M", Attribute.container .string (.string "x")),
      ("S", Attribute.container .list (.array []))]
    IsImage image ∧
      ∃ fields, decode (.object image) = .ok (.object fields) ∧ IsWalk image fields := by
  intro image
  have h : IsImage image := by
    simp only [image, IsImage, List.forall_mem_cons]
    exact ⟨⟨.string "x", rfl⟩, ⟨.list [], rfl⟩, by simp⟩
  exact ⟨h, (decode_image_iff h).1.2 (by simp [image])⟩

/-- An image is not always walked: the one attribute here is named like a map. -/
theorem not_forall_image_walked :
    ¬ ∀ image, IsImage image →
      ∃ fields, decode (.object image) = .ok (.object fields) ∧ IsWalk image fields := by
  intro hall
  have h : IsImage [("M", Attribute.container .string (.string "x"))] := by
    simp only [IsImage, List.forall_mem_cons]
    exact ⟨⟨.string "x", rfl⟩, by simp⟩
  obtain ⟨fields, hfields, _⟩ := hall _ h
  have hunknown : decode (.object [("M", Attribute.container .string (.string "x"))]) =
      .error (.unknownName "x" (Descriptor.all.map Descriptor.name)) := rfl
  rw [hunknown] at hfields
  cases hfields

end Record

end ChangeSieve
