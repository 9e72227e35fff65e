import ChangeSieve.Json.Basic
import Mathlib.Data.List.Forall2
import Mathlib.Data.List.Induction
import Mathlib.Data.String.Basic

/-!
Keyed lists: what they have under a key, how they are built in order of their keys, and where the
objects of a value have their keys in order.
-/
namespace ChangeSieve

namespace Fields
variable {α : Type} {fields : List (String × α)}

theorem mem_insert {key : String} {value : α} {field : String × α}
    (h : field ∈ insert key value fields) : field = (key, value) ∨ field ∈ fields := by
  induction fields with
  | nil => exact .inl (List.mem_singleton.1 h)
  | cons first rest ih =>
    rw [insert] at h
    split_ifs at h with hlt heq
    · exact List.mem_cons.1 h
    · exact (List.mem_cons.1 h).imp_right (List.mem_cons_of_mem first)
    · rcases List.mem_cons.1 h with rfl | h
      · exact .inr List.mem_cons_self
      · exact (ih h).imp_right (List.mem_cons_of_mem first)

theorem sorted_insert (key : String) (value : α) (h : Sorted fields) :
    Sorted (insert key value fields) := by
  induction fields with
  | nil => exact List.pairwise_singleton _ _
  | cons first rest ih =>
    obtain ⟨k, v⟩ := first
    obtain ⟨hfirst, hrest⟩ := List.pairwise_cons.1 h
    rw [insert]
    split_ifs with hlt heq
    · refine List.pairwise_cons.2 ⟨List.forall_mem_cons.2 ⟨hlt, fun field hfield => ?_⟩, h⟩
      exact lt_trans hlt (hfirst field hfield)
    · subst heq
      exact List.pairwise_cons.2 ⟨hfirst, hrest⟩
    · refine List.pairwise_cons.2 ⟨fun field hfield => ?_, ih hrest⟩
      rcases mem_insert hfield with rfl | hfield
      · exact lt_of_le_of_ne (not_lt.1 hlt) (Ne.symm heq)
      · exact hfirst field hfield

/-- What reading builds from members in any order, with repeated keys or without. -/
theorem ofList_spec (pairs : List (String × α)) :
    Sorted (ofList pairs) ∧ ∀ field ∈ ofList pairs, field ∈ pairs := by
  have hfrom (fields : List (String × α)) (hsorted : Sorted fields) :
      Sorted (pairs.foldl (fun fields pair => insert pair.1 pair.2 fields) fields) ∧
        ∀ field ∈ pairs.foldl (fun fields pair => insert pair.1 pair.2 fields) fields,
          field ∈ fields ∨ field ∈ pairs := by
    induction pairs generalizing fields with
    | nil => exact ⟨hsorted, fun field hfield => .inl hfield⟩
    | cons pair rest ih =>
      obtain ⟨hsorted', hmem⟩ := ih _ (sorted_insert pair.1 pair.2 hsorted)
      refine ⟨hsorted', fun field hfield => ?_⟩
      rcases hmem field hfield with hfield | hfield
      · rcases mem_insert hfield with rfl | hfield
        · exact .inr List.mem_cons_self
        · exact .inl hfield
      · exact .inr (List.mem_cons_of_mem pair hfield)
  obtain ⟨hsorted, hmem⟩ := hfrom [] .nil
  exact ⟨hsorted, fun field hfield => (hmem field hfield).resolve_left List.not_mem_nil⟩

theorem get?_append_cons {before after : List (String × α)} {key key' : String}
    {a : α} : get? key (before ++ (key', a) :: after) =
      (get? key before).or (if key = key' then some a else get? key after) := by
  unfold get?
  rw [List.lookup_append, List.lookup_cons]
  by_cases hkey : key = key'
  · simp [hkey]
  · simp [hkey, beq_eq_false_iff_ne.2 hkey]

theorem exists_get?_iff {key : String} :
    (∃ value, get? key fields = some value) ↔ ∃ value, (key, value) ∈ fields := by
  rw [get?, ← Option.isSome_iff_exists, List.lookup_isSome_iff]
  simp

@[simp] theorem get?_insert_self (key : String) (value : α) (fields : List (String × α)) :
    get? key (insert key value fields) = some value := by
  unfold get?
  induction fields with
  | nil => simp [insert]
  | cons first rest ih =>
    rw [insert]
    split_ifs with hlt heq
    · exact List.lookup_cons_self
    · exact List.lookup_cons_self
    · rw [List.lookup_cons, beq_eq_false_iff_ne.2 heq, ih]

theorem get?_insert_of_ne {key key' : String} (h : key ≠ key') (value : α)
    (fields : List (String × α)) : get? key (insert key' value fields) = get? key fields := by
  have hne : (key == key') = false := beq_eq_false_iff_ne.2 h
  unfold get?
  induction fields with
  | nil => simp only [insert, List.lookup_cons, hne]
  | cons first rest ih =>
    obtain ⟨k, v⟩ := first
    rw [insert]
    split_ifs with hlt heq
    · simp only [List.lookup_cons, hne]
    · subst heq
      simp only [List.lookup_cons, hne]
    · simp only [List.lookup_cons, ih]

/-- Of the pairs of one key the last is looked up. -/
theorem get?_ofList (key : String) (pairs : List (String × α)) :
    get? key (ofList pairs) = get? key pairs.reverse := by
  induction pairs using List.reverseRecOn with
  | nil => rfl
  | append_singleton pairs pair ih =>
    obtain ⟨k, v⟩ := pair
    have hconcat : ofList (pairs ++ [(k, v)]) = insert k v (ofList pairs) := by simp [ofList]
    rw [hconcat, List.reverse_concat]
    by_cases hkey : key = k
    · subst hkey
      rw [get?_insert_self]
      exact List.lookup_cons_self.symm
    · rw [get?_insert_of_ne hkey, ih]
      simp only [get?, List.lookup_cons, beq_eq_false_iff_ne.2 hkey]

/-- Later pairs override earlier ones. -/
theorem get?_ofList_append (key : String) (earlier later : List (String × α)) :
    get? key (ofList (earlier ++ later)) =
      (get? key (ofList later)).or (get? key (ofList earlier)) := by
  simp only [get?_ofList, List.reverse_append]
  exact List.lookup_append

/-- Each key of the pairs, and no other key, stands once, with the value of its last pair. -/
structure KeepsLast (pairs fields : List (String × α)) : Prop where
  sorted : Sorted fields
  keys : ∀ key, (∃ value, get? key fields = some value) ↔ ∃ value, (key, value) ∈ pairs
  last : ∀ before key value after, pairs = before ++ (key, value) :: after →
    (∀ pair ∈ after, pair.1 ≠ key) → get? key fields = some value

theorem keepsLast_ofList (pairs : List (String × α)) : KeepsLast pairs (ofList pairs) := by
  refine ⟨(ofList_spec pairs).1, fun key => ?_, fun before key value after hpairs hafter => ?_⟩
  · simp only [get?_ofList, exists_get?_iff, List.mem_reverse]
  · have hreverse : pairs.reverse = after.reverse ++ (key, value) :: before.reverse := by
      simp [hpairs]
    rw [get?_ofList, hreverse, get?, List.lookup_eq_some_iff]
    refine ⟨after.reverse, before.reverse, rfl, fun pair hpair => ?_⟩
    exact bne_iff_ne.2 (hafter pair (List.mem_reverse.1 hpair)).symm

theorem filter_insert_self (key : String) (value : α) (fields : List (String × α)) :
    ((insert key value fields).filter fun field => field.1 ≠ key) =
      fields.filter fun field => field.1 ≠ key := by
  induction fields with
  | nil => simp [insert]
  | cons first rest ih =>
    rw [insert]
    split_ifs with hlt heq
    · exact List.filter_cons_of_neg (by simp)
    · rw [List.filter_cons_of_neg (by simp), List.filter_cons_of_neg (by simp [heq])]
    · rw [List.filter_cons_of_pos (by simp [Ne.symm heq]),
        List.filter_cons_of_pos (by simp [Ne.symm heq]), ih]

theorem insert_of_forall_lt {key : String} (value : α) (h : ∀ field ∈ fields, field.1 < key) :
    insert key value fields = fields ++ [(key, value)] := by
  induction fields with
  | nil => rfl
  | cons first rest ih =>
    obtain ⟨hfirst, hrest⟩ := List.forall_mem_cons.1 h
    rw [insert, if_neg (not_lt.2 hfirst.le), if_neg hfirst.ne', ih hrest]
    rfl

theorem ofList_of_sorted (h : Sorted fields) : ofList fields = fields := by
  have hfrom (done rest : List (String × α)) (h : Sorted (done ++ rest)) :
      rest.foldl (fun fields pair => insert pair.1 pair.2 fields) done = done ++ rest := by
    induction rest generalizing done with
    | nil => simp
    | cons pair rest ih =>
      have hlt : ∀ field ∈ done, field.1 < pair.1 := fun field hfield =>
        (List.pairwise_append.1 h).2.2 field hfield pair List.mem_cons_self
      rw [List.foldl_cons, insert_of_forall_lt _ hlt, ih _ (by simpa using h)]
      simp
  exact hfrom [] fields h

theorem insert_perm {key : String} (value : α) (h : ∀ field ∈ fields, field.1 ≠ key) :
    (insert key value fields).Perm ((key, value) :: fields) := by
  induction fields with
  | nil => exact .refl _
  | cons first rest ih =>
    obtain ⟨hfirst, hrest⟩ := List.forall_mem_cons.1 h
    rw [insert]
    split_ifs with hlt heq
    · exact .refl _
    · exact absurd heq.symm hfirst
    · exact ((ih hrest).cons first).trans (.swap _ _ _)

/-- Nothing is lost of pairs under different keys. -/
theorem ofList_perm {pairs : List (String × α)} (h : (pairs.map Prod.fst).Nodup) :
    (ofList pairs).Perm pairs := by
  induction pairs using List.reverseRecOn with
  | nil => exact .refl _
  | append_singleton pairs pair ih =>
    rw [List.map_append, List.map_singleton, List.nodup_append] at h
    obtain ⟨hpairs, _, hnew⟩ := h
    have hconcat : ofList (pairs ++ [pair]) = insert pair.1 pair.2 (ofList pairs) := by
      simp [ofList]
    have hkeys : ∀ field ∈ ofList pairs, field.1 ≠ pair.1 := fun field hfield =>
      hnew _ (List.mem_map_of_mem ((ofList_spec pairs).2 field hfield)) _ List.mem_cons_self
    rw [hconcat]
    exact ((insert_perm pair.2 hkeys).trans ((ih hpairs).cons pair)).trans
      (List.perm_append_singleton _ _).symm

theorem nodup_keys (h : Sorted fields) : (fields.map Prod.fst).Nodup :=
  List.pairwise_map.2 (h.imp ne_of_lt)

/-- Sorted fields are built from their pairs in any order. -/
theorem ofList_of_perm {pairs : List (String × α)} (hsorted : Sorted fields)
    (h : pairs.Perm fields) : ofList pairs = fields := by
  have hnodup : (pairs.map Prod.fst).Nodup := (h.map Prod.fst).nodup_iff.2 (nodup_keys hsorted)
  refine List.Perm.eq_of_pairwise (fun a b _ _ hab hba => ?_) (ofList_spec pairs).1 hsorted
    ((ofList_perm hnodup).trans h)
  exact absurd hab (lt_asymm hba)

theorem sorted_map_iff {β : Type} {f : α → β} :
    Sorted (fields.map fun field => (field.1, f field.2)) ↔ Sorted fields :=
  List.pairwise_map

theorem sorted_map {β : Type} (h : Sorted fields) (f : α → β) :
    Sorted (fields.map fun field => (field.1, f field.2)) :=
  sorted_map_iff.2 h

theorem sorted_of_sublist_keys {keys : List String} (h : (fields.map Prod.fst).Sublist keys)
    (hkeys : keys.Pairwise (· < ·)) : Sorted fields :=
  List.pairwise_map.1 (hkeys.sublist h)

theorem lt_of_sorted_append_cons {before after : List (String × α)} {key : String} {value : α}
    (h : Sorted (before ++ (key, value) :: after)) :
    (∀ field ∈ before, field.1 < key) ∧ ∀ field ∈ after, key < field.1 := by
  obtain ⟨_, hrest, hcross⟩ := List.pairwise_append.1 h
  exact ⟨fun field hfield => hcross field hfield _ List.mem_cons_self, (List.pairwise_cons.1 hrest).1⟩

theorem mem_of_get? {key : String} {value : α} (h : get? key fields = some value) :
    (key, value) ∈ fields := by
  unfold get? at h
  induction fields with
  | nil => simp at h
  | cons first rest ih =>
    obtain ⟨k, v⟩ := first
    by_cases hkey : key = k
    · simp only [List.lookup_cons, hkey, beq_self_eq_true, Option.some.injEq] at h
      rw [hkey, h]
      exact List.mem_cons_self
    · have hne : (key == k) = false := beq_eq_false_iff_ne.2 hkey
      simp only [List.lookup_cons, hne] at h
      exact List.mem_cons_of_mem _ (ih h)

theorem get?_of_mem (hsorted : Sorted fields) {key : String} {value : α}
    (h : (key, value) ∈ fields) : get? key fields = some value := by
  obtain ⟨before, after, rfl⟩ := List.append_of_mem h
  rw [get?, List.lookup_eq_some_iff]
  refine ⟨before, after, rfl, fun field hfield => ?_⟩
  exact bne_iff_ne.2 ((lt_of_sorted_append_cons hsorted).1 field hfield).ne'

theorem get?_map {β : Type} (key : String) (f : α → β) :
    get? key (fields.map fun field => (field.1, f field.2)) = (get? key fields).map f := by
  unfold get?
  induction fields with
  | nil => rfl
  | cons first rest ih =>
    obtain ⟨k, v⟩ := first
    by_cases hkey : key = k
    · simp [hkey]
    · have hne : (key == k) = false := beq_eq_false_iff_ne.2 hkey
      simp only [List.map_cons, List.lookup_cons, hne, ih]

theorem get?_of_forall₂ {β : Type} {R : α → β → Prop} {as : List (String × α)}
    {bs : List (String × β)} (h : List.Forall₂ (fun a b => b.1 = a.1 ∧ R a.2 b.2) as bs)
    {key : String} {a : α} (ha : get? key as = some a) : ∃ b, get? key bs = some b ∧ R a b := by
  unfold get? at ha ⊢
  induction h with
  | nil => simp at ha
  | @cons first second as bs hpair _ ih =>
    obtain ⟨k, x⟩ := first
    obtain ⟨k', y⟩ := second
    obtain ⟨rfl, hR⟩ := hpair
    by_cases hkey : key = k'
    · simp only [List.lookup_cons, hkey, beq_self_eq_true, Option.some.injEq] at ha
      subst ha
      exact ⟨y, by simp only [List.lookup_cons, hkey, beq_self_eq_true], hR⟩
    · have hne : (key == k') = false := beq_eq_false_iff_ne.2 hkey
      simp only [List.lookup_cons, hne] at ha ⊢
      exact ih ha

theorem get?_eq_none_of_forall₂ {β : Type} {R : α → β → Prop} {as : List (String × α)}
    {bs : List (String × β)} (h : List.Forall₂ (fun a b => b.1 = a.1 ∧ R a.2 b.2) as bs)
    {key : String} (ha : get? key as = none) : get? key bs = none := by
  have hflip : List.Forall₂ (fun b a => a.1 = b.1 ∧ flip R b.2 a.2) bs as :=
    h.flip.imp fun _ _ hpair => ⟨hpair.1.symm, hpair.2⟩
  by_contra hsome
  obtain ⟨b, hb⟩ := Option.ne_none_iff_exists'.1 hsome
  obtain ⟨a, hfound, _⟩ := get?_of_forall₂ hflip hb
  rw [ha] at hfound
  cases hfound

end Fields

namespace Json

@[simp] theorem sortedItems_iff {items : List Json} :
    SortedItems items ↔ ∀ item ∈ items, item.Sorted := by
  induction items with
  | nil => simp [SortedItems]
  | cons v rest ih => rw [SortedItems, ih, List.forall_mem_cons]

@[simp] theorem sortedMembers_iff {members : List (String × Json)} :
    SortedMembers members ↔ ∀ member ∈ members, member.2.Sorted := by
  induction members with
  | nil => simp [SortedMembers]
  | cons member rest ih => rw [SortedMembers, ih, List.forall_mem_cons]

@[simp] theorem sorted_object_iff {members : List (String × Json)} :
    (Json.object members).Sorted ↔
      Fields.Sorted members ∧ ∀ member ∈ members, member.2.Sorted := by
  rw [Sorted, sortedMembers_iff]

end Json

end ChangeSieve
