import ChangeSieve.Json.Structure
import ChangeSieve.Proofs.Fields
import ChangeSieve.Proofs.Outcome

/-!
Structures, read field by field. The reading keeps what each of its steps keeps, and a part that only one
field goes into comes from that field.
-/
namespace ChangeSieve
open Outcome

namespace Shape
variable {α β : Type} {shape : Shape} {step : α → String × Json → Except ContentError α}
  {defaults a : α} {v : Json}

theorem read_eq_ok_iff :
    shape.read step defaults v = .ok a ↔
      ∃ fields, shape.given v = .ok fields ∧ fields.foldlM step defaults = .ok a ∧
        shape.gap? v = none := by
  unfold read
  simp only [bind_eq_ok_iff]
  refine exists_congr fun fields => and_congr_right fun _ => ?_
  cases shape.gap? v <;> simp

/-- An object is read when its fields are, and no field without a default is missing. -/
theorem read_object_eq_ok_iff {members : List (String × Json)} :
    shape.read step defaults (.object members) = .ok a ↔
      members.foldlM step defaults = .ok a ∧
        ∀ name ∈ shape.fields.take shape.required, ∃ w, (name, w) ∈ members := by
  have hgap : shape.gap? (.object members) = none ↔
      ∀ name ∈ shape.fields.take shape.required, ∃ w, (name, w) ∈ members := by
    simp only [gap?, Option.map_eq_none_iff, List.find?_eq_none, Bool.not_eq_true,
      Option.isNone_eq_false_iff, Option.isSome_iff_exists, Fields.exists_get?_iff]
  rw [read_eq_ok_iff, hgap]
  simp [given]

/-- The fields of a value with its keys in order have their own keys in order. -/
theorem sorted_of_given {fields : List (String × Json)}
    (hsorted : v.Sorted) (h : shape.given v = .ok fields) : ∀ field ∈ fields, field.2.Sorted := by
  intro field hfield
  cases v with
  | object members =>
    cases h
    exact Json.sortedMembers_iff.1 hsorted.2 field hfield
  | array items =>
    cases h
    exact Json.sortedItems_iff.1 hsorted _ (List.of_mem_zip hfield).2
  | _ => cases h

/-- Reading keeps what each of its steps keeps. -/
theorem read_preserves {P : α → Prop} (hsorted : v.Sorted) (hstart : P defaults)
    (hstep : ∀ a a' field, field.2.Sorted → P a → step a field = .ok a' → P a')
    (h : shape.read step defaults v = .ok a) : P a := by
  obtain ⟨fields, hfields, hrun, -⟩ := read_eq_ok_iff.1 h
  refine foldlM_preserves (P := fun seen a => (∀ field ∈ seen, field.2.Sorted) → P a) (fun _ => hstart) ?_
    hrun (sorted_of_given hsorted hfields)
  intro seen field a a' ha hnext hseen
  obtain ⟨hbefore, hfield⟩ := List.forall_mem_append.1 hseen
  exact hstep a a' field (hfield field List.mem_cons_self) (ha hbefore) hnext

/-- The field that a value gives under a key. Of several the last one is read last, and stands. -/
def field? (shape : Shape) (key : String) (v : Json) : Option Json :=
  (shape.given v).toOption.bind fun fields => Fields.get? key fields.reverse

theorem sorted_of_field? {key : String} {w : Json} (hsorted : v.Sorted)
    (h : shape.field? key v = some w) : w.Sorted := by
  unfold field? at h
  cases hfields : shape.given v with
  | error e => simp [hfields, Except.toOption] at h
  | ok fields =>
    simp only [hfields, Except.toOption, Option.bind_some] at h
    exact sorted_of_given hsorted hfields _ (List.mem_reverse.1 (Fields.mem_of_get? h))

/-- A part that only the field under one key goes into is read from this field, or keeps its default. -/
theorem part_of_read (part : α → β) (R : Json → β → Prop) (key : String)
    (hkey : ∀ a a' w, step a (key, w) = .ok a' → R w (part a'))
    (hother : ∀ a a' field, field.1 ≠ key → step a field = .ok a' → part a' = part a)
    (h : shape.read step defaults v = .ok a) :
    match shape.field? key v with
    | some w => R w (part a)
    | none => part a = part defaults := by
  obtain ⟨fields, hfields, hrun, -⟩ := read_eq_ok_iff.1 h
  simp only [field?, hfields, Except.toOption, Option.bind_some, Fields.get?]
  -- of the fields seen so far, the last one under the key has been read into the part
  refine foldlM_preserves (P := fun seen a => match seen.reverse.lookup key with
    | some w => R w (part a)
    | none => part a = part defaults) rfl ?_ hrun
  intro seen field a a' ha hnext
  obtain ⟨k, w⟩ := field
  rw [List.reverse_append, List.reverse_singleton, List.singleton_append]
  by_cases hk : k = key
  · subst hk
    rw [List.lookup_cons_self]
    exact hkey a a' w hnext
  · rw [List.lookup_cons, beq_eq_false_iff_ne.2 (Ne.symm hk), hother a a' (k, w) hk hnext]
    exact ha

end Shape

end ChangeSieve
