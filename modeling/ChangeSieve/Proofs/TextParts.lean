import ChangeSieve.Text.Blank
import Mathlib.Data.List.TakeWhile

/-!
Parts of a text: what stands between separators, what stands before and after the first of them, and
what is left without the white space at both ends.
-/
namespace ChangeSieve.Text
variable {separator : Char} {cs before after : List Char}

/-! Separators. -/

/-- Splitting is the library's splitting of lists. -/
theorem split_eq_splitOn (separator : Char) (cs : List Char) :
    split separator cs = cs.splitOn separator := by
  induction cs with
  | nil => rfl
  | cons c rest ih =>
    rw [split, List.splitOn_cons_eq_if_modifyHead, ih]
    by_cases hc : c = separator
    · simp [hc]
    · cases hs : rest.splitOn separator with
      | nil => exact absurd hs (List.splitOn_ne_nil _ _)
      | cons part parts => simp [hc]

theorem split_ne_nil (separator : Char) (cs : List Char) : split separator cs ≠ [] := by
  rw [split_eq_splitOn]
  exact List.splitOn_ne_nil _ _

theorem split_append_cons (separator : Char) (before after : List Char) :
    split separator (before ++ separator :: after) =
      split separator before ++ split separator after := by
  simp only [split_eq_splitOn, List.splitOn_append_cons_self]

theorem split_of_not_mem (h : separator ∉ cs) : split separator cs = [cs] := by
  rw [split_eq_splitOn, List.splitOn_eq_singleton h]

theorem split_intercalate {parts : List (List Char)} (hne : parts ≠ [])
    (h : ∀ part ∈ parts, separator ∉ part) :
    split separator ([separator].intercalate parts) = parts := by
  rw [split_eq_splitOn, List.splitOn_intercalate separator h hne]

theorem intercalate_split (separator : Char) (cs : List Char) :
    [separator].intercalate (split separator cs) = cs := by
  rw [split_eq_splitOn, List.intercalate_splitOn]

theorem not_mem_of_mem_split {part : List Char} (h : part ∈ split separator cs) :
    separator ∉ part := by
  induction cs generalizing part with
  | nil =>
    rw [List.mem_singleton.1 h]
    exact List.not_mem_nil
  | cons c rest ih =>
    obtain ⟨first, parts, hrest⟩ := List.exists_cons_of_ne_nil (split_ne_nil separator rest)
    rw [hrest] at ih
    rw [split, hrest] at h
    split_ifs at h with hc
    · rcases List.mem_cons.1 h with rfl | h
      · exact List.not_mem_nil
      · exact ih h
    · rcases List.mem_cons.1 h with rfl | h
      · exact mt List.mem_cons.1 (not_or.2 ⟨Ne.symm hc, ih List.mem_cons_self⟩)
      · exact ih (List.mem_cons_of_mem first h)

theorem takeWhile_append_cons (h : separator ∉ before) :
    (before ++ separator :: after).takeWhile (· ≠ separator) = before := by
  rw [List.takeWhile_append_of_pos fun c hc => by simpa using ne_of_mem_of_not_mem hc h]
  simp

theorem dropWhile_append_cons (h : separator ∉ before) :
    (before ++ separator :: after).dropWhile (· ≠ separator) = separator :: after := by
  rw [List.dropWhile_append_of_pos fun c hc => by simpa using ne_of_mem_of_not_mem hc h]
  simp

theorem not_mem_takeWhile : separator ∉ cs.takeWhile (· ≠ separator) := by
  intro h
  simpa using List.mem_takeWhile_imp h

/-- What is left of a text after its front without separators: nothing, or a separator and the rest. -/
theorem dropWhile_cases (separator : Char) (cs : List Char) :
    cs.dropWhile (· ≠ separator) = [] ∨
      ∃ rest, cs.dropWhile (· ≠ separator) = separator :: rest := by
  cases h : cs.dropWhile (· ≠ separator) with
  | nil => exact .inl rfl
  | cons c rest =>
    have hc := List.head?_dropWhile_not (· ≠ separator) cs
    rw [h] at hc
    exact .inr ⟨rest, by simpa using hc⟩

/-- A text is cut at its first separator and nowhere else. -/
theorem splitOnce?_eq_some_iff :
    splitOnce? separator cs = some (before, after) ↔
      cs = before ++ separator :: after ∧ separator ∉ before := by
  constructor
  · intro h
    unfold splitOnce? at h
    rcases dropWhile_cases separator cs with hdrop | ⟨rest, hdrop⟩ <;> rw [hdrop] at h
    · cases h
    · obtain ⟨rfl, rfl⟩ := Prod.mk.inj (Option.some.inj h)
      refine ⟨?_, not_mem_takeWhile⟩
      rw [← hdrop, List.takeWhile_append_dropWhile]
  · rintro ⟨rfl, hbefore⟩
    simp only [splitOnce?, dropWhile_append_cons hbefore, takeWhile_append_cons hbefore]

theorem splitOnce?_eq_none_iff : splitOnce? separator cs = none ↔ separator ∉ cs := by
  unfold splitOnce?
  rcases dropWhile_cases separator cs with hdrop | ⟨rest, hdrop⟩ <;> rw [hdrop]
  · have hfront := List.dropWhile_eq_nil_iff.1 hdrop
    exact iff_of_true rfl fun hmem => absurd (hfront separator hmem) (by simp)
  · have hmem : separator ∈ cs.dropWhile (· ≠ separator) := hdrop ▸ List.mem_cons_self
    exact iff_of_false (by simp) (not_not_intro ((List.dropWhile_suffix _).subset hmem))

/-- The front of a text without separators ends with the text or at a separator. -/
theorem takeWhile_eq_iff :
    cs.takeWhile (· ≠ separator) = before ↔
      separator ∉ before ∧ (cs = before ∨ ∃ rest, cs = before ++ separator :: rest) := by
  constructor
  · rintro rfl
    refine ⟨not_mem_takeWhile, (dropWhile_cases separator cs).imp (fun h => ?_) ?_⟩
    · have hcut := List.takeWhile_append_dropWhile (p := (· ≠ separator)) (l := cs)
      rw [h, List.append_nil] at hcut
      exact hcut.symm
    · rintro ⟨rest, h⟩
      exact ⟨rest, by rw [← h, List.takeWhile_append_dropWhile]⟩
  · rintro ⟨hbefore, rfl | ⟨rest, rfl⟩⟩
    · exact List.takeWhile_eq_self_iff.2 fun c hc => by simpa using ne_of_mem_of_not_mem hc hbefore
    · exact takeWhile_append_cons hbefore

/-! White space at both ends. -/

def AllBlank (cs : List Char) : Prop := ∀ c ∈ cs, isBlank c = true

instance : DecidablePred AllBlank := fun cs => List.decidableBAll _ cs

def Trimmed (cs : List Char) : Prop :=
  (∀ c ∈ cs.head?, isBlank c = false) ∧ ∀ c ∈ cs.getLast?, isBlank c = false

-- stated outright: the quantifiers range over one character each, not over all characters
instance : DecidablePred Trimmed := fun cs =>
  @instDecidableAnd _ _ (Option.decidableForallMem cs.head?) (Option.decidableForallMem cs.getLast?)

/-- A text is a part of it with nothing but white space before and after it. -/
def Padded (cs part : List Char) : Prop :=
  ∃ lead tail, AllBlank lead ∧ AllBlank tail ∧ cs = lead ++ (part ++ tail)

theorem AllBlank.not_mem (h : AllBlank cs) {c : Char} (hc : isBlank c = false) : c ∉ cs := by
  intro hmem
  rw [h c hmem] at hc
  cases hc

theorem Padded.not_mem {part : List Char} (h : Padded cs part) {c : Char}
    (hc : isBlank c = false) (hpart : c ∉ part) : c ∉ cs := by
  obtain ⟨lead, tail, hlead, htail, rfl⟩ := h
  simp only [List.mem_append, not_or]
  exact ⟨hlead.not_mem hc, hpart, htail.not_mem hc⟩

theorem trimLeft_append (h : AllBlank before) : trimLeft (before ++ cs) = trimLeft cs :=
  List.dropWhile_append_of_pos h

theorem trimLeft_of_allBlank (h : AllBlank cs) : trimLeft cs = [] := List.dropWhile_eq_nil_iff.2 h

theorem trimLeft_of_head (h : ∀ c ∈ cs.head?, isBlank c = false) : trimLeft cs = cs := by
  cases cs with
  | nil => rfl
  | cons c rest => exact List.dropWhile_cons_of_neg (by simp [h c rfl])

theorem head_trimLeft (cs : List Char) : ∀ c ∈ (trimLeft cs).head?, isBlank c = false := by
  intro c hc
  have hnot := List.head?_dropWhile_not isBlank cs
  rw [← trimLeft, hc] at hnot
  exact hnot

/-- What is taken off at the start is blank. -/
theorem exists_trimLeft (cs : List Char) : ∃ lead, AllBlank lead ∧ cs = lead ++ trimLeft cs :=
  ⟨cs.takeWhile isBlank, fun _ => List.mem_takeWhile_imp, List.takeWhile_append_dropWhile.symm⟩

/-- What is taken off at the end is blank. -/
theorem exists_trimRight (cs : List Char) : ∃ tail, AllBlank tail ∧ cs = trimRight cs ++ tail := by
  obtain ⟨lead, hlead, hcs⟩ := exists_trimLeft cs.reverse
  refine ⟨lead.reverse, fun c hc => hlead c (List.mem_reverse.1 hc), ?_⟩
  rw [trimRight, ← List.reverse_append, ← hcs, List.reverse_reverse]

theorem padded_trim (cs : List Char) : Padded cs (trim cs) := by
  obtain ⟨lead, hlead, hcs⟩ := exists_trimLeft cs
  obtain ⟨tail, htail, hrest⟩ := exists_trimRight (trimLeft cs)
  refine ⟨lead, tail, hlead, htail, ?_⟩
  rw [trim, ← hrest, ← hcs]

theorem trimmed_trim (cs : List Char) : Trimmed (trim cs) := by
  constructor
  · intro c hc
    -- a start that is left after trimming the end was there before
    obtain ⟨tail, -, htail⟩ := exists_trimRight (trimLeft cs)
    refine head_trimLeft cs c ?_
    rw [htail, List.head?_append, ← trim, hc]
    rfl
  · intro c hc
    rw [trim, trimRight, List.getLast?_reverse] at hc
    exact head_trimLeft _ c hc

theorem Padded.trim_eq {part : List Char} (h : Padded cs part) (hpart : Trimmed part) :
    trim cs = part := by
  obtain ⟨lead, tail, hlead, htail, rfl⟩ := h
  rw [trim, trimLeft_append hlead]
  cases part with
  | nil => rw [List.nil_append, trimLeft_of_allBlank htail, trimRight, List.reverse_nil]; rfl
  | cons c rest =>
    have hstart : ∀ x ∈ (c :: rest ++ tail).head?, isBlank x = false := hpart.1
    have hend : ∀ x ∈ (c :: rest).reverse.head?, isBlank x = false := by
      rw [List.head?_reverse]
      exact hpart.2
    have htail' : AllBlank tail.reverse := fun x hx => htail x (List.mem_reverse.1 hx)
    rw [trimLeft_of_head hstart, trimRight, List.reverse_append, trimLeft_append htail',
      trimLeft_of_head hend, List.reverse_reverse]

theorem mem_of_mem_trim {c : Char} (h : c ∈ trim cs) : c ∈ cs := by
  obtain ⟨lead, tail, -, -, hcs⟩ := padded_trim cs
  rw [hcs]
  exact List.mem_append_right lead (List.mem_append_left tail h)

theorem trim_eq_nil_iff : trim cs = [] ↔ AllBlank cs := by
  constructor
  · intro h
    obtain ⟨lead, tail, hlead, htail, hcs⟩ := padded_trim cs
    rw [h, List.nil_append] at hcs
    rw [hcs]
    exact List.forall_mem_append.2 ⟨hlead, htail⟩
  · intro h
    have hpadded : Padded cs [] := ⟨cs, [], h, by decide, by simp⟩
    exact hpadded.trim_eq (by decide)

theorem trim_of_not_blank (h : ∀ c ∈ cs, isBlank c = false) : trim cs = cs := by
  have hpadded : Padded cs cs := ⟨[], [], by decide, by decide, by simp⟩
  exact hpadded.trim_eq
    ⟨fun c hc => h c (List.mem_of_mem_head? hc), fun c hc => h c (List.mem_of_mem_getLast? hc)⟩

end ChangeSieve.Text
