import Mathlib.Data.List.Forall2

/-!
When a reading succeeds: steps in sequence, and lists read member by member. A list fails with the
error of the first member that cannot be read.
-/
namespace ChangeSieve.Outcome

variable {ε ε' α β : Type}

@[simp] theorem ok_bind {a : α} {f : α → Except ε β} : (Except.ok a >>= f) = f a := rfl

@[simp] theorem bind_eq_ok_iff {x : Except ε α} {f : α → Except ε β} {b : β} :
    (x >>= f) = .ok b ↔ ∃ a, x = .ok a ∧ f a = .ok b := by
  cases x <;> simp [bind, Except.bind]

@[simp] theorem map_eq_ok_iff {x : Except ε α} {f : α → β} {b : β} :
    x.map f = .ok b ↔ ∃ a, x = .ok a ∧ f a = b := by
  cases x <;> simp [Except.map]

@[simp] theorem mapError_eq_ok_iff {x : Except ε α} {f : ε → ε'} {a : α} :
    x.mapError f = .ok a ↔ x = .ok a := by
  cases x <;> simp [Except.mapError]

@[simp] theorem pure_eq_ok_iff {a b : α} : (pure a : Except ε α) = .ok b ↔ a = b := by
  simp [pure, Except.pure]

/-- A list is read when each of its members is, and in their order. -/
theorem mapM_eq_ok_iff {f : α → Except ε β} {as : List α} {bs : List β} :
    as.mapM f = .ok bs ↔ List.Forall₂ (fun a b => f a = .ok b) as bs := by
  induction as generalizing bs with
  | nil => cases bs <;> simp
  | cons a rest ih =>
    simp only [List.mapM_cons, bind_eq_ok_iff, pure_eq_ok_iff, ih]
    constructor
    · intro h
      obtain ⟨b, hb, tail, htail, rfl⟩ := h
      exact .cons hb htail
    · intro h
      rcases h with _ | ⟨hb, htail⟩
      exact ⟨_, hb, _, htail, rfl⟩

theorem mapM_congr_of_mem {f g : α → Except ε β} {as : List α} (h : ∀ a ∈ as, f a = g a) :
    as.mapM f = as.mapM g := by
  induction as with
  | nil => rfl
  | cons a rest ih =>
    obtain ⟨ha, hrest⟩ := List.forall_mem_cons.1 h
    rw [List.mapM_cons, List.mapM_cons, ha, ih hrest]

/-- If what is read of each member is written as its image, so is what is read of the list. -/
theorem map_eq_map_of_mapM {γ : Type} {f : α → Except ε β} {image : α → γ} {write : β → γ}
    {as : List α} {bs : List β} (hread : as.mapM f = .ok bs)
    (h : ∀ a ∈ as, ∀ b, f a = .ok b → write b = image a) : bs.map write = as.map image := by
  have hpairs := mapM_eq_ok_iff.1 hread
  clear hread
  induction hpairs with
  | nil => rfl
  | cons hab _ ih =>
    obtain ⟨ha, hrest⟩ := List.forall_mem_cons.1 h
    rw [List.map_cons, List.map_cons, ha _ hab, ih hrest]

/-- A keyed list is read under its keys, so respelling its values is unseen where each value is. -/
theorem mapM_fields_congr {read : α → Except ε β} {respell : α → α} {fields : List (String × α)}
    (h : ∀ field ∈ fields, read (respell field.2) = read field.2) :
    ((fields.map fun field => (field.1, respell field.2)).mapM fun field =>
      (read field.2).map (Prod.mk field.1)) =
      fields.mapM fun field => (read field.2).map (Prod.mk field.1) := by
  rw [List.mapM_map]
  refine mapM_congr_of_mem fun field hfield => ?_
  simp only [Function.comp_apply, h field hfield]

theorem map_fields_eq_of_mapM {γ : Type} {read : α → Except ε β} {image : α → γ} {write : β → γ}
    {fields : List (String × α)} {pairs : List (String × β)}
    (hread : (fields.mapM fun field => (read field.2).map (Prod.mk field.1)) = .ok pairs)
    (h : ∀ field ∈ fields, ∀ b, read field.2 = .ok b → write b = image field.2) :
    (pairs.map fun pair => (pair.1, write pair.2)) =
      fields.map fun field => (field.1, image field.2) := by
  refine map_eq_map_of_mapM hread fun field hfield pair hpair => ?_
  obtain ⟨b, hb, rfl⟩ := map_eq_ok_iff.1 hpair
  rw [h field hfield b hb]

theorem map_fields_eq_self {f : α → α} {fields : List (String × α)}
    (h : ∀ field ∈ fields, f field.2 = field.2) :
    (fields.map fun field => (field.1, f field.2)) = fields := by
  refine (List.map_congr_left fun field hfield => ?_).trans (List.map_id fields)
  rw [h field hfield]
  rfl

theorem exists_left_of_forall₂ {R : α → β → Prop} {as : List α} {bs : List β}
    (h : List.Forall₂ R as bs) {b : β} (hb : b ∈ bs) : ∃ a ∈ as, R a b := by
  induction h with
  | nil => exact absurd hb List.not_mem_nil
  | cons hab _ ih =>
    rcases List.mem_cons.1 hb with rfl | hb
    · exact ⟨_, List.mem_cons_self, hab⟩
    · obtain ⟨a, ha, hR⟩ := ih hb
      exact ⟨a, List.mem_cons_of_mem _ ha, hR⟩

theorem exists_right_of_forall₂ {R : α → β → Prop} {as : List α} {bs : List β}
    (h : List.Forall₂ R as bs) {a : α} (ha : a ∈ as) : ∃ b ∈ bs, R a b :=
  exists_left_of_forall₂ h.flip ha

/-- A list has partners when each of its members has one. -/
theorem exists_forall₂_iff {P : α → Prop} {R : α → β → Prop} {as : List α}
    (h : ∀ a ∈ as, P a ↔ ∃ b, R a b) : (∃ bs, List.Forall₂ R as bs) ↔ ∀ a ∈ as, P a := by
  constructor
  · rintro ⟨bs, hbs⟩ a ha
    obtain ⟨b, _, hb⟩ := exists_right_of_forall₂ hbs ha
    exact (h a ha).2 ⟨b, hb⟩
  · intro hall
    induction as with
    | nil => exact ⟨[], .nil⟩
    | cons a rest ih =>
      obtain ⟨ha, hrest⟩ := List.forall_mem_cons.1 hall
      obtain ⟨b, hb⟩ := (h a List.mem_cons_self).1 ha
      obtain ⟨bs, hbs⟩ := ih (List.forall_mem_cons.1 h).2 hrest
      exact ⟨b :: bs, .cons hb hbs⟩

theorem forall₂_congr_of_mem {R R' : α → β → Prop} {as : List α} {bs : List β}
    (h : ∀ a ∈ as, ∀ b, R a b ↔ R' a b) : List.Forall₂ R as bs ↔ List.Forall₂ R' as bs := by
  induction as generalizing bs with
  | nil => cases bs <;> simp
  | cons a rest ih =>
    obtain ⟨ha, hrest⟩ := List.forall_mem_cons.1 h
    cases bs with
    | nil => simp
    | cons b tail => simp only [List.forall₂_cons, ha, ih hrest]

theorem forall₂_imp_of_mem {R R' : α → β → Prop} {as : List α} {bs : List β}
    (h : List.Forall₂ R as bs) (himp : ∀ a ∈ as, ∀ b, R a b → R' a b) : List.Forall₂ R' as bs := by
  rw [forall₂_congr_of_mem fun a ha b => (and_iff_left_of_imp (himp a ha b)).symm] at h
  exact h.imp fun _ _ hboth => hboth.2

/-- The partners of a list fall apart as the list does. -/
theorem exists_forall₂_of_append_cons {R : α → β → Prop} {before after : List α} {a : α}
    {bs : List β} (h : List.Forall₂ R (before ++ a :: after) bs) :
    ∃ before' b after', List.Forall₂ R before before' ∧ R a b ∧ List.Forall₂ R after after' ∧
      before' ++ b :: after' = bs := by
  induction before generalizing bs with
  | nil =>
    rcases h with _ | ⟨hab, hafter⟩
    exact ⟨[], _, _, .nil, hab, hafter, rfl⟩
  | cons first before ih =>
    rcases h with _ | ⟨hfirst, hrest⟩
    obtain ⟨before', b, after', hbefore, hab, hafter, rfl⟩ := ih hrest
    exact ⟨_ :: before', b, after', .cons hfirst hbefore, hab, hafter, rfl⟩

theorem forall₂_eq_map_iff {f : β → α} {as : List α} {bs : List β} :
    List.Forall₂ (fun a b => a = f b) as bs ↔ as = bs.map f := by
  rw [← List.forall₂_map_right_iff, List.forall₂_eq_eq_eq]

/-- Keyed lists go together member by member when their keys are equal and their values do. -/
theorem forall₂_fields_iff {R : α → β → Prop} {as : List (String × α)} {bs : List (String × β)} :
    List.Forall₂ (fun a b => b.1 = a.1 ∧ R a.2 b.2) as bs ↔
      bs.map Prod.fst = as.map Prod.fst ∧
        List.Forall₂ R (as.map Prod.snd) (bs.map Prod.snd) := by
  induction as generalizing bs with
  | nil => cases bs <;> simp
  | cons a rest ih =>
    cases bs with
    | nil => simp
    | cons b tail =>
      simp only [List.forall₂_cons, ih, List.map_cons, List.cons.injEq]
      tauto

/-! Where a reading fails. -/

section Errors
variable {γ : Type} {f : α → Except ε β} {as bs : List α} {e : ε}

@[simp] theorem map_eq_error_iff {x : Except ε α} {f : α → β} : x.map f = .error e ↔ x = .error e := by
  cases x <;> simp [Except.map]

@[simp] theorem mapError_eq_error_iff {x : Except ε α} {f : ε → ε'} {e' : ε'} :
    x.mapError f = .error e' ↔ ∃ e, x = .error e ∧ f e = e' := by
  cases x <;> simp [Except.mapError]

theorem exists_ok_iff {x : Except ε α} : (∃ a, x = .ok a) ↔ ∀ e, x ≠ .error e := by
  cases x <;> simp

/-- Of the members of a list, the first that cannot be read has the given error. -/
def FirstError (f : α → Except ε β) (as : List α) (e : ε) : Prop :=
  ∃ before a after, as = before ++ a :: after ∧ (∀ x ∈ before, ∃ b, f x = .ok b) ∧ f a = .error e

theorem not_firstError_nil : ¬FirstError f [] e := by
  rintro ⟨before, a, after, h, _⟩
  cases before <;> cases h

theorem firstError_cons_iff {a : α} :
    FirstError f (a :: as) e ↔ f a = .error e ∨ (∃ b, f a = .ok b) ∧ FirstError f as e := by
  constructor
  · rintro ⟨before, faulty, after, heq, hbefore, hfaulty⟩
    cases before with
    | nil =>
      obtain ⟨rfl, rfl⟩ := List.cons.inj heq
      exact .inl hfaulty
    | cons first before =>
      obtain ⟨rfl, rfl⟩ := List.cons.inj heq
      obtain ⟨hfirst, hbefore⟩ := List.forall_mem_cons.1 hbefore
      exact .inr ⟨hfirst, before, faulty, after, rfl, hbefore, hfaulty⟩
  · rintro (ha | ⟨ha, before, faulty, after, rfl, hbefore, hfaulty⟩)
    · exact ⟨[], a, as, rfl, by simp, ha⟩
    · exact ⟨a :: before, faulty, after, rfl, List.forall_mem_cons.2 ⟨ha, hbefore⟩, hfaulty⟩

theorem firstError_append_iff :
    FirstError f (as ++ bs) e ↔
      FirstError f as e ∨ (∀ a ∈ as, ∃ b, f a = .ok b) ∧ FirstError f bs e := by
  induction as with
  | nil => simp [not_firstError_nil]
  | cons a rest ih =>
    rw [List.cons_append, firstError_cons_iff, ih, firstError_cons_iff, List.forall_mem_cons]
    tauto

theorem mapM_eq_error_iff : as.mapM f = .error e ↔ FirstError f as e := by
  induction as with
  | nil => simp [not_firstError_nil, pure, Except.pure]
  | cons a rest ih =>
    rw [List.mapM_cons, firstError_cons_iff, ← ih]
    cases ha : f a with
    | error error => simp [bind, Except.bind]
    | ok b => cases hrest : rest.mapM f <;> simp [bind, Except.bind, pure, Except.pure]

theorem exists_mapM_iff : (∃ bs, as.mapM f = .ok bs) ↔ ∀ a ∈ as, ∃ b, f a = .ok b := by
  simp only [mapM_eq_ok_iff]
  exact exists_forall₂_iff fun _ _ => Iff.rfl

/-- A list fails when one of its members does. -/
theorem exists_firstError_iff : (∃ e, FirstError f as e) ↔ ∃ a ∈ as, ∃ e, f a = .error e := by
  have hall : (¬∃ bs, as.mapM f = .ok bs) ↔ ¬∀ a ∈ as, ∃ b, f a = .ok b := exists_mapM_iff.not
  simpa only [exists_ok_iff, mapM_eq_error_iff, not_forall, not_not, exists_prop] using hall

theorem firstError_congr {g : α → Except ε γ}
    (h : ∀ a ∈ as, ∀ e, f a = .error e ↔ g a = .error e) :
    FirstError f as e ↔ FirstError g as e := by
  induction as with
  | nil => simp [not_firstError_nil]
  | cons a rest ih =>
    obtain ⟨ha, hrest⟩ := List.forall_mem_cons.1 h
    simp only [firstError_cons_iff, exists_ok_iff, ne_eq, ha, ih hrest]

/-- Lists in a row fail as the first of them does that has a faulty member. -/
theorem firstError_flatMap_iff {g : γ → List α} {cs : List γ} :
    FirstError f (cs.flatMap g) e ↔ FirstError (fun c => (g c).mapM f) cs e := by
  induction cs with
  | nil => simp [not_firstError_nil]
  | cons c rest ih =>
    rw [List.flatMap_cons, firstError_append_iff, firstError_cons_iff, mapM_eq_error_iff,
      exists_mapM_iff, ih]

end Errors

/-! Runs: a list is gone through step by step, and the first step that fails ends the run. -/

section Runs
variable {γ : Type} {step : β → α → Except ε β} {as : List α} {b b' : β}

/-- What every step keeps of the members seen so far holds of them all when the run is over. -/
theorem foldlM_preserves {P : List α → β → Prop} (hstart : P [] b)
    (hstep : ∀ seen a b b', P seen b → step b a = .ok b' → P (seen ++ [a]) b')
    (h : as.foldlM step b = .ok b') : P as b' := by
  have hfrom (seen rest : List α) (b : β) (hseen : P seen b) (h : rest.foldlM step b = .ok b') :
      P (seen ++ rest) b' := by
    induction rest generalizing seen b with
    | nil =>
      rw [List.foldlM_nil, pure_eq_ok_iff] at h
      subst h
      rwa [List.append_nil]
    | cons a rest ih =>
      rw [List.foldlM_cons, bind_eq_ok_iff] at h
      obtain ⟨next, hnext, hrest⟩ := h
      have hrun := ih (seen ++ [a]) next (hstep seen a b next hseen hnext) hrest
      rwa [List.append_assoc, List.singleton_append] at hrun
  exact hfrom [] as b hstart h

/-- A run through lists in a row is a run of runs. -/
theorem foldlM_flatMap {g : γ → List α} {cs : List γ} :
    (cs.flatMap g).foldlM step b = cs.foldlM (fun b c => (g c).foldlM step b) b := by
  induction cs generalizing b with
  | nil => rfl
  | cons c rest ih =>
    rw [List.flatMap_cons, List.foldlM_append, List.foldlM_cons]
    exact congrArg _ (funext fun _ => ih)

end Runs

end ChangeSieve.Outcome
