import ChangeSieve.Proofs.Positions
import ChangeSieve.Proofs.Respelling
import ChangeSieve.Proofs.WrittenText
import ChangeSieve.Record.Order
import Mathlib.Data.List.Perm.Basic

/-!
The order of map entries. In any order a record is judged alike, is equal to the record as it was
read, and is written as a text of the same value. Only a map with two entries has more than one order.
-/
namespace ChangeSieve
open Outcome

variable {order : MapOrder}

/-! What an order changes. -/

namespace Attribute

/-- The second value is the first one, arranged at some place. -/
def Arranged (order : MapOrder) (a b : Attribute) : Prop := ∃ place, b = a.arrange order place

theorem forall₂_arrangeItems (order : MapOrder) (place : List Nat) (position : Nat)
    (items : List Attribute) :
    List.Forall₂ (Arranged order) items (arrangeItems order place position items) := by
  induction items generalizing position with
  | nil => exact .nil
  | cons a rest ih => exact .cons ⟨_, rfl⟩ (ih (position + 1))

theorem forall₂_arrangeEntries (order : MapOrder) (place : List Nat) (position : Nat)
    (entries : List (String × Attribute)) :
    List.Forall₂ (fun e e' => e'.1 = e.1 ∧ Arranged order e.2 e'.2) entries
      (arrangeEntries order place position entries) := by
  induction entries generalizing position with
  | nil => exact .nil
  | cons e rest ih => exact .cons ⟨rfl, _, rfl⟩ (ih (position + 1))

theorem Arranged.of_list {items : List Attribute} {b : Attribute}
    (h : (list items).Arranged order b) :
    ∃ items', b = list items' ∧ List.Forall₂ (Arranged order) items items' := by
  obtain ⟨place, rfl⟩ := h
  exact ⟨_, rfl, forall₂_arrangeItems order place 0 items⟩

/-- The entries of a map are arranged one by one, and then put in order. -/
theorem Arranged.of_map {entries : List (String × Attribute)} {b : Attribute}
    (h : (map entries).Arranged order b) :
    ∃ entries' mid, b = map entries' ∧ entries'.Perm mid ∧
      List.Forall₂ (fun e e' => e'.1 = e.1 ∧ Arranged order e.2 e'.2) entries mid := by
  obtain ⟨place, rfl⟩ := h
  exact ⟨_, _, rfl, order.perm place _, forall₂_arrangeEntries order place 0 entries⟩

end Attribute

namespace Record

def Arranged (order : MapOrder) (r r' : Record) : Prop := ∃ place, r' = r.arrange order place

theorem forall₂_arrangeItems (order : MapOrder) (place : List Nat) (position : Nat)
    (items : List Record) :
    List.Forall₂ (Arranged order) items (arrangeItems order place position items) := by
  induction items generalizing position with
  | nil => exact .nil
  | cons r rest ih => exact .cons ⟨_, rfl⟩ (ih (position + 1))

theorem forall₂_arrangeFields (order : MapOrder) (place : List Nat) (position : Nat)
    (fields : List (String × Record)) :
    List.Forall₂ (fun f f' => f'.1 = f.1 ∧ Arranged order f.2 f'.2) fields
      (arrangeFields order place position fields) := by
  induction fields generalizing position with
  | nil => exact .nil
  | cons f rest ih => exact .cons ⟨rfl, _, rfl⟩ (ih (position + 1))

theorem Arranged.of_list {items : List Record} {r : Record} (h : (list items).Arranged order r) :
    ∃ items', r = list items' ∧ List.Forall₂ (Arranged order) items items' := by
  obtain ⟨place, rfl⟩ := h
  exact ⟨_, rfl, forall₂_arrangeItems order place 0 items⟩

theorem Arranged.of_typed {a : Attribute} {r : Record} (h : (typed a).Arranged order r) :
    ∃ b, r = typed b ∧ a.Arranged order b := by
  obtain ⟨place, rfl⟩ := h
  exact ⟨_, rfl, place, rfl⟩

theorem Arranged.of_object {fields : List (String × Record)} {r : Record}
    (h : (object fields).Arranged order r) : ∃ fields', r = object fields' ∧
      List.Forall₂ (fun f f' => f'.1 = f.1 ∧ Arranged order f.2 f'.2) fields fields' := by
  obtain ⟨place, rfl⟩ := h
  exact ⟨_, rfl, forall₂_arrangeFields order place 0 fields⟩

end Record

theorem MapOrder.forall₂_arrange (order : MapOrder) (rs : List Record) :
    List.Forall₂ (Record.Arranged order) rs (order.arrange rs) :=
  Record.forall₂_arrangeItems order [] 0 rs

/-! Every order is judged alike. -/

theorem Subject.ofAttribute_of_arranged {a b : Attribute} (h : a.Arranged order b) :
    ofAttribute b = ofAttribute a := by
  obtain ⟨place, rfl⟩ := h
  cases a <;> rfl

namespace Pattern

theorem Node.admits_of_arranged {r r' : Record} (h : r.Arranged order r') (node : Node) :
    node.admits (some r') = node.admits (some r) := by
  induction r generalizing r' node with
  | object fields ih =>
    obtain ⟨fields', rfl, hfields⟩ := h.of_object
    refine admits_congr ?_ (fun key node => ?_) node
    · rfl
    show node.admits (Fields.get? key fields') = node.admits (Fields.get? key fields)
    cases hget : Fields.get? key fields with
    | none => rw [Fields.get?_eq_none_of_forall₂ hfields hget]
    | some part =>
      obtain ⟨part', hpart, harranged⟩ := Fields.get?_of_forall₂ hfields hget
      rw [hpart]
      exact ih _ (Fields.mem_of_get? hget) harranged node
  | typed a =>
    obtain ⟨b, rfl, hab⟩ := h.of_typed
    refine admits_congr ?_ ?_ node
    · exact Subject.ofAttribute_of_arranged hab
    · exact fun _ _ => rfl
  | list items =>
    obtain ⟨items', rfl, _⟩ := h.of_list
    refine admits_congr ?_ ?_ node
    · rfl
    · exact fun _ _ => rfl
  | _ =>
    obtain ⟨_, rfl⟩ := h
    rfl

end Pattern

namespace DeliveryFilter

theorem allows_of_arranged (filter : DeliveryFilter) {r r' : Record} (h : r.Arranged order r') :
    filter.allows r' = filter.allows r := by
  have hadmits (p : Pattern) : p.admits r' = p.admits r :=
    Pattern.Node.admits_of_arranged h (.object p.root)
  simp only [allows, Pattern.anyAdmits, hadmits]

theorem keep_arranged (filter : DeliveryFilter) {rs rs' : List Record}
    (h : List.Forall₂ (Record.Arranged order) rs rs') :
    List.Forall₂ (Record.Arranged order) (filter.keep rs) (filter.keep rs') := by
  unfold keep
  induction h with
  | nil => exact .nil
  | cons hr _ ih =>
    rw [List.filter_cons, List.filter_cons, filter.allows_of_arranged hr]
    split_ifs
    · exact .cons hr ih
    · exact ih

end DeliveryFilter

/-! Every order makes an equal value. -/

@[simp] theorem FiniteDouble.same_self (f : FiniteDouble) : f.same f = true := beq_self_eq_true _

@[simp] theorem Number.same_self (n : Number) : n.same n = true := by
  cases n with
  | integer i fits => exact beq_self_eq_true i
  | float f => exact f.same_self

namespace Attribute

theorem sameItems_of_forall₂ {items items' : List Attribute}
    (h : List.Forall₂ (fun a b => b.same a = true) items items') :
    sameItems items' items = true := by
  induction h with
  | nil => rfl
  | cons hab _ ih => rw [sameItems, hab, ih, Bool.and_true]

theorem entriesOccur_iff {entries others : List (String × Attribute)} :
    entriesOccur entries others = true ↔
      ∀ e ∈ entries, ∃ a, Fields.get? e.1 others = some a ∧ e.2.same a = true := by
  induction entries with
  | nil => simp [entriesOccur]
  | cons e rest ih =>
    rw [entriesOccur, Bool.and_eq_true, ih, List.forall_mem_cons, Option.any_eq_true]

theorem sorted_list_iff {items : List Attribute} :
    (list items).toJson.Sorted ↔ ∀ item ∈ items, item.toJson.Sorted := by
  rw [toJson, container, Json.sorted_object_iff, List.forall_mem_singleton, Json.Sorted,
    Json.sortedItems_iff, itemsToJson_eq_map, List.forall_mem_map]
  exact and_iff_right (List.pairwise_singleton _ _)

theorem sorted_map_iff {entries : List (String × Attribute)} :
    (map entries).toJson.Sorted ↔
      Fields.Sorted entries ∧ ∀ entry ∈ entries, entry.2.toJson.Sorted := by
  rw [toJson, container, Json.sorted_object_iff, List.forall_mem_singleton,
    Json.sorted_object_iff, entriesToJson_eq_map, List.forall_mem_map, Fields.sorted_map_iff]
  exact and_iff_right (List.pairwise_singleton _ _)

theorem same_of_arranged {a b : Attribute} (hsorted : a.toJson.Sorted) (h : a.Arranged order b) :
    b.same a = true := by
  induction a generalizing b with
  | list items ih =>
    obtain ⟨items', rfl, hitems⟩ := h.of_list
    have hall := sorted_list_iff.1 hsorted
    exact sameItems_of_forall₂ (forall₂_imp_of_mem hitems fun a ha _ => ih a ha (hall a ha))
  | map entries ih =>
    obtain ⟨entries', mid, rfl, hperm, hmid⟩ := h.of_map
    obtain ⟨hkeys, hall⟩ := sorted_map_iff.1 hsorted
    have hlength : entries'.length = entries.length :=
      hperm.length_eq.trans hmid.length_eq.symm
    rw [same, hlength, beq_self_eq_true, Bool.true_and, entriesOccur_iff]
    intro e he
    obtain ⟨entry, hentry, hkey, harranged⟩ := exists_left_of_forall₂ hmid (hperm.mem_iff.1 he)
    refine ⟨entry.2, ?_, ih entry hentry (hall entry hentry) harranged⟩
    rw [hkey]
    exact Fields.get?_of_mem hkeys hentry
  | _ =>
    obtain ⟨_, rfl⟩ := h
    exact beq_self_eq_true _

end Attribute

namespace Record

theorem sameItems_of_forall₂ {items items' : List Record}
    (h : List.Forall₂ (fun r r' => r'.same r = true) items items') :
    sameItems items' items = true := by
  induction h with
  | nil => rfl
  | cons hr _ ih => rw [sameItems, hr, ih, Bool.and_true]

theorem sameFields_of_forall₂ {fields fields' : List (String × Record)}
    (h : List.Forall₂ (fun f f' => f'.1 = f.1 ∧ f'.2.same f.2 = true) fields fields') :
    sameFields fields' fields = true := by
  induction h with
  | nil => rfl
  | cons hf _ ih => rw [sameFields, hf.1, hf.2, ih, beq_self_eq_true, Bool.and_true, Bool.and_true]

theorem same_of_arranged {r r' : Record} (hsorted : r.toJson.Sorted) (h : r.Arranged order r') :
    r'.same r = true := by
  induction r generalizing r' with
  | list items ih =>
    obtain ⟨items', rfl, hitems⟩ := h.of_list
    rw [toJson, Json.Sorted, Json.sortedItems_iff, itemsToJson_eq_map,
      List.forall_mem_map] at hsorted
    exact sameItems_of_forall₂ (forall₂_imp_of_mem hitems fun r hr _ => ih r hr (hsorted r hr))
  | object fields ih =>
    obtain ⟨fields', rfl, hfields⟩ := h.of_object
    rw [toJson, Json.sorted_object_iff, fieldsToJson_eq_map, List.forall_mem_map] at hsorted
    exact sameFields_of_forall₂ (forall₂_imp_of_mem hfields fun f hf _ hpair =>
      ⟨hpair.1, ih f hf (hsorted.2 f hf) hpair.2⟩)
  | typed a =>
    obtain ⟨b, rfl, hab⟩ := h.of_typed
    exact Attribute.same_of_arranged hsorted hab
  | null => obtain ⟨_, rfl⟩ := h; rfl
  | number n => obtain ⟨_, rfl⟩ := h; exact n.same_self
  | _ =>
    obtain ⟨_, rfl⟩ := h
    exact beq_self_eq_true _

end Record

/-! Only a map with two entries has more than one order. -/

theorem eq_of_forall₂_eq {α : Type} {as bs : List α} (h : List.Forall₂ (fun a b => b = a) as bs) :
    bs = as := by
  induction h with
  | nil => rfl
  | cons hab _ ih => rw [hab, ih]

/-- No map in the value has more than one entry. -/
inductive Attribute.HasOneOrder : Attribute → Prop where
  | scalar {a : Attribute} (hlist : ∀ items, a ≠ .list items) (hmap : ∀ entries, a ≠ .map entries) :
      HasOneOrder a
  | list {items : List Attribute} (h : ∀ item ∈ items, item.HasOneOrder) :
      HasOneOrder (.list items)
  | map {entries : List (String × Attribute)} (hlength : entries.length ≤ 1)
      (h : ∀ entry ∈ entries, entry.2.HasOneOrder) : HasOneOrder (.map entries)

theorem Attribute.HasOneOrder.eq_of_arranged {a b : Attribute} (h : a.HasOneOrder)
    (hab : a.Arranged order b) : b = a := by
  induction h generalizing b with
  | @scalar a hlist hmap =>
    obtain ⟨_, rfl⟩ := hab
    cases a with
    | list items => exact absurd rfl (hlist items)
    | map entries => exact absurd rfl (hmap entries)
    | _ => rfl
  | list _ ih =>
    obtain ⟨items', rfl, hitems⟩ := hab.of_list
    rw [eq_of_forall₂_eq (forall₂_imp_of_mem hitems fun a ha _ hab => ih a ha hab)]
  | map hlength _ ih =>
    obtain ⟨entries', mid, rfl, hperm, hmid⟩ := hab.of_map
    have hsame := eq_of_forall₂_eq (forall₂_imp_of_mem hmid fun e he _ hpair =>
      Prod.ext hpair.1 (ih e he hpair.2))
    rw [hsame] at hperm
    match entries', hperm.length_eq ▸ hlength with
    | [], _ => rw [List.nil_perm.1 hperm]
    | [e], _ => rw [List.singleton_perm.1 hperm]

inductive Record.HasOneOrder : Record → Prop where
  | scalar {r : Record} (hlist : ∀ items, r ≠ .list items) (htyped : ∀ a, r ≠ .typed a)
      (hobject : ∀ fields, r ≠ .object fields) : HasOneOrder r
  | list {items : List Record} (h : ∀ item ∈ items, item.HasOneOrder) : HasOneOrder (.list items)
  | typed {a : Attribute} (h : a.HasOneOrder) : HasOneOrder (.typed a)
  | object {fields : List (String × Record)} (h : ∀ field ∈ fields, field.2.HasOneOrder) :
      HasOneOrder (.object fields)

theorem Record.HasOneOrder.eq_of_arranged {r r' : Record} (h : r.HasOneOrder)
    (hr : r.Arranged order r') : r' = r := by
  induction h generalizing r' with
  | @scalar r hlist htyped hobject =>
    obtain ⟨_, rfl⟩ := hr
    cases r with
    | list items => exact absurd rfl (hlist items)
    | typed a => exact absurd rfl (htyped a)
    | object fields => exact absurd rfl (hobject fields)
    | _ => rfl
  | list _ ih =>
    obtain ⟨items', rfl, hitems⟩ := hr.of_list
    rw [eq_of_forall₂_eq (forall₂_imp_of_mem hitems fun r hr _ hrr => ih r hr hrr)]
  | typed h =>
    obtain ⟨b, rfl, hab⟩ := hr.of_typed
    rw [h.eq_of_arranged hab]
  | object _ ih =>
    obtain ⟨fields', rfl, hfields⟩ := hr.of_object
    rw [eq_of_forall₂_eq (forall₂_imp_of_mem hfields fun f hf _ hpair =>
      Prod.ext hpair.1 (ih f hf hpair.2))]

theorem Record.eq_of_all_arranged {rs rs' : List Record} (hone : ∀ r ∈ rs, r.HasOneOrder)
    (h : List.Forall₂ (Arranged order) rs rs') : rs' = rs :=
  eq_of_forall₂_eq (forall₂_imp_of_mem h fun r hr _ hrr => (hone r hr).eq_of_arranged hrr)

/-! Every order is written as a text of the same value. -/

@[simp] theorem Attribute.readable_container_iff {d : Descriptor} {content : Json} {depth : Nat} :
    (container d content).Readable (depth + 1) ↔ content.Readable depth := by
  rw [container, Json.readable_object_iff, List.forall_mem_singleton]
  exact and_iff_right (List.pairwise_singleton _ _)

section Texts
open Json.Reader (ValueText)
variable [Json.FloatReading] (floats : Json.FloatReading.ReadsBack)

namespace Attribute

theorem valueText_container {d : Descriptor} {depth : Nat} {w v : Json}
    (h : ValueText depth w.chars v) :
    ValueText (depth + 1) (container d w).chars (container d v) := by
  have hmember : List.Forall₂ (fun w v => v.1 = w.1 ∧ ValueText depth w.2.chars v.2)
      [(d.name, w)] [(d.name, v)] := .cons ⟨rfl, h⟩ .nil
  exact .object_chars hmember

include floats

theorem valueText_of_arranged {a b : Attribute} (h : a.Arranged order b) {depth : Nat}
    (hread : a.toJson.Readable depth) : ValueText depth b.toJson.chars a.toJson := by
  induction a generalizing b depth with
  | list items ih =>
    obtain ⟨items', rfl, hitems⟩ := h.of_list
    obtain ⟨depth, rfl⟩ := hread.exists_inner (.inr rfl)
    rw [toJson, itemsToJson_eq_map, readable_container_iff] at hread
    obtain ⟨depth, rfl⟩ := hread.exists_inner (.inl rfl)
    have hall := List.forall_mem_map.1 (Json.readable_array_iff.1 hread)
    rw [toJson, toJson, itemsToJson_eq_map, itemsToJson_eq_map]
    refine valueText_container (.array_chars ?_)
    rw [List.forall₂_map_left_iff, List.forall₂_map_right_iff]
    exact (forall₂_imp_of_mem hitems fun a ha _ hab => ih a ha hab (hall a ha)).flip
  | map entries ih =>
    obtain ⟨entries', mid, rfl, hperm, hmid⟩ := h.of_map
    obtain ⟨depth, rfl⟩ := hread.exists_inner (.inr rfl)
    rw [toJson, entriesToJson_eq_map, readable_container_iff] at hread
    obtain ⟨depth, rfl⟩ := hread.exists_inner (.inr rfl)
    obtain ⟨hsorted, hall⟩ := Json.readable_object_iff.1 hread
    rw [List.forall_mem_map] at hall
    -- the members as they were read, in the order of the written ones
    obtain ⟨pairs, hpairs, hpermuted⟩ := List.perm_comp_forall₂ hperm hmid.flip
    have hmembers := Fields.ofList_of_perm hsorted
      (hpermuted.map fun entry => (entry.1, entry.2.toJson))
    rw [toJson, toJson, entriesToJson_eq_map, entriesToJson_eq_map, ← hmembers]
    refine valueText_container (.object_chars ?_)
    rw [List.forall₂_map_left_iff, List.forall₂_map_right_iff]
    have hpairs' := forall₂_imp_of_mem hpairs.flip fun entry hentry e' hpair =>
      And.intro hpair.1 (ih entry (hpermuted.mem_iff.1 hentry) hpair.2
        (hall entry (hpermuted.mem_iff.1 hentry)))
    exact hpairs'.flip.imp fun _ _ hpair => ⟨hpair.1.symm, hpair.2⟩
  | _ =>
    obtain ⟨_, rfl⟩ := h
    exact .chars floats hread

end Attribute

namespace Record
include floats

theorem valueText_of_arranged {r r' : Record} (h : r.Arranged order r') {depth : Nat}
    (hread : r.toJson.Readable depth) : ValueText depth r'.toJson.chars r.toJson := by
  induction r generalizing r' depth with
  | list items ih =>
    obtain ⟨items', rfl, hitems⟩ := h.of_list
    obtain ⟨depth, rfl⟩ := hread.exists_inner (.inl rfl)
    rw [toJson, itemsToJson_eq_map] at hread
    have hall := List.forall_mem_map.1 (Json.readable_array_iff.1 hread)
    rw [toJson, toJson, itemsToJson_eq_map, itemsToJson_eq_map]
    refine .array_chars ?_
    rw [List.forall₂_map_left_iff, List.forall₂_map_right_iff]
    exact (forall₂_imp_of_mem hitems fun r hr _ hrr => ih r hr hrr (hall r hr)).flip
  | object fields ih =>
    obtain ⟨fields', rfl, hfields⟩ := h.of_object
    obtain ⟨depth, rfl⟩ := hread.exists_inner (.inr rfl)
    rw [toJson, fieldsToJson_eq_map] at hread
    obtain ⟨hsorted, hall⟩ := Json.readable_object_iff.1 hread
    rw [List.forall_mem_map] at hall
    rw [toJson, toJson, fieldsToJson_eq_map, fieldsToJson_eq_map, ← Fields.ofList_of_sorted hsorted]
    refine .object_chars ?_
    rw [List.forall₂_map_left_iff, List.forall₂_map_right_iff]
    have hfields' := forall₂_imp_of_mem hfields fun f hf f' hpair =>
      And.intro hpair.1 (ih f hf hpair.2 (hall f hf))
    exact hfields'.flip.imp fun _ _ hpair => ⟨hpair.1.symm, hpair.2⟩
  | typed a =>
    obtain ⟨b, rfl, hab⟩ := h.of_typed
    exact Attribute.valueText_of_arranged floats hab hread
  | _ =>
    obtain ⟨_, rfl⟩ := h
    exact .chars floats hread

end Record

end Texts

end ChangeSieve
