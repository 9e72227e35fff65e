import ChangeSieve.Proofs.Fields
import ChangeSieve.Proofs.Induction
import ChangeSieve.Proofs.JsonText

/-!
Written values. A value that was read is sorted by key and no deeper than its text, and what is
written of every such value is read as this value again.
-/
namespace ChangeSieve

namespace Json

def Within : Nat → Json → Prop
  | depth + 1, .array items => ∀ item ∈ items, item.Within depth
  | depth + 1, .object members => ∀ member ∈ members, member.2.Within depth
  | 0, .array _ => False
  | 0, .object _ => False
  | _, _ => True

/-- What texts with at most `depth` levels are read as. -/
def Readable (depth : Nat) (v : Json) : Prop := v.Sorted ∧ v.Within depth

theorem readable_of_scalar {v : Json} (harray : v.kind ≠ .array) (hobject : v.kind ≠ .object)
    (depth : Nat) : v.Readable depth := by
  cases v with
  | array => exact absurd rfl harray
  | object => exact absurd rfl hobject
  | _ => cases depth <;> exact ⟨trivial, trivial⟩

@[simp] theorem readable_string (text : String) (depth : Nat) : (string text).Readable depth :=
  readable_of_scalar (by simp [kind]) (by simp [kind]) depth

@[simp] theorem readable_array_iff {depth : Nat} {items : List Json} :
    (array items).Readable (depth + 1) ↔ ∀ item ∈ items, item.Readable depth := by
  simp only [Readable, Sorted, Within, sortedItems_iff]
  exact forall₂_and.symm

@[simp] theorem readable_object_iff {depth : Nat} {members : List (String × Json)} :
    (object members).Readable (depth + 1) ↔
      Fields.Sorted members ∧ ∀ member ∈ members, member.2.Readable depth := by
  simp only [Readable, Sorted, Within, sortedMembers_iff, and_assoc]
  exact and_congr_right' forall₂_and.symm

theorem kind_of_readable_zero {v : Json} (h : v.Readable 0) :
    v.kind ≠ .array ∧ v.kind ≠ .object := by
  cases v with
  | array => exact absurd h.2 id
  | object => exact absurd h.2 id
  | _ => simp [kind]

theorem Within.mono {depth depth' : Nat} (hdepth : depth ≤ depth') {v : Json}
    (h : v.Within depth) : v.Within depth' := by
  induction depth generalizing depth' v with
  | zero => cases v <;> cases depth' <;> first | exact absurd h id | trivial
  | succ depth ih =>
    obtain ⟨depth', rfl⟩ : ∃ k, depth' = k + 1 := ⟨depth' - 1, by omega⟩
    cases v with
    | array items => exact fun item hitem => ih (by omega) (h item hitem)
    | object members => exact fun member hmember => ih (by omega) (h member hmember)
    | _ => trivial

theorem Readable.mono {depth depth' : Nat} (hdepth : depth ≤ depth') {v : Json}
    (h : v.Readable depth) : v.Readable depth' := ⟨h.1, h.2.mono hdepth⟩

/-- An array or object takes one level of depth. -/
theorem Readable.exists_inner {depth : Nat} {v : Json} (h : v.Readable depth)
    (hkind : v.kind = .array ∨ v.kind = .object) : ∃ inner, depth = inner + 1 := by
  cases depth with
  | zero =>
    obtain ⟨harray, hobject⟩ := kind_of_readable_zero h
    exact (hkind.elim harray hobject).elim
  | succ inner => exact ⟨inner, rfl⟩

namespace Reader

/-! What is read. -/

section Containers
variable {α : Type} {close : Char} {Item : List Char → α → Prop}

theorem Spaced.exists_text {cs : List Char} {a : α} (h : Spaced Item cs a) :
    ∃ used, Item used a := by
  cases h with
  | blanks _ ha => exact ⟨_, ha⟩

theorem SeriesText.exists_text {used : List Char} {as : List α}
    (h : SeriesText close Item used as) : ∀ a ∈ as, ∃ used, Item used a := by
  induction h with
  | last ha => simpa using ha.exists_text
  | next ha _ ih => exact List.forall_mem_cons.2 ⟨ha.exists_text, ih⟩

theorem BodyText.exists_text {used : List Char} {as : List α} (h : BodyText close Item used as) :
    ∀ a ∈ as, ∃ used, Item used a := by
  cases h with
  | empty => simp
  | items h => exact h.exists_text

end Containers

theorem MemberText.exists_text {Value : List Char → Json → Prop} {cs : List Char}
    {member : String × Json} (h : MemberText Value cs member) : ∃ used, Value used member.2 := by
  cases h with
  | member _ _ _ hv => exact ⟨_, hv⟩

theorem ScalarText.readable [FloatReading] {cs : List Char} {v : Json} (h : ScalarText cs v)
    (depth : Nat) :
    v.Readable depth := by
  cases h <;> exact readable_of_scalar (by simp [kind]) (by simp [kind]) depth

theorem ValueText.readable [FloatReading] {depth : Nat} {cs : List Char} {v : Json}
    (h : ValueText depth cs v) : v.Readable depth := by
  induction depth generalizing cs v with
  | zero => exact ScalarText.readable h 0
  | succ depth ih =>
    rcases h with h | h
    · exact h.readable _
    · cases h with
      | array h =>
        refine readable_array_iff.2 fun item hitem => ?_
        obtain ⟨used, hused⟩ := h.exists_text item hitem
        exact ih hused
      | @object cs members h =>
        obtain ⟨hsorted, hmem⟩ := Fields.ofList_spec members
        refine readable_object_iff.2 ⟨hsorted, fun member hmember => ?_⟩
        obtain ⟨_, htext⟩ := h.exists_text member (hmem member hmember)
        obtain ⟨used, hused⟩ := htext.exists_text
        exact ih hused

/-! What is written. -/

section Containers
variable {α : Type} {close : Char} {Item : List Char → α → Prop}

theorem Spaced.plain {cs : List Char} {a : α} (ha : Item cs a) : Spaced Item cs a := by
  have h : Spaced Item ([] ++ (cs ++ [])) a := .blanks blanks_nil ha blanks_nil
  simpa using h

theorem SeriesText.of_forall₂ {cs : List Char} {a : α} {texts : List (List Char)} {as : List α}
    (ha : Spaced Item cs a) (h : List.Forall₂ (Spaced Item) texts as) :
    SeriesText close Item ([','].intercalate (cs :: texts) ++ [close]) (a :: as) := by
  induction h generalizing cs a with
  | nil =>
    rw [List.intercalate_singleton]
    exact .last ha
  | cons ha' _ ih =>
    rw [List.intercalate_cons_cons, List.append_assoc, List.append_assoc]
    exact .next ha (ih ha')

/-- Texts of items with commas between them make a series. -/
theorem BodyText.of_forall₂ {texts : List (List Char)} {as : List α}
    (h : List.Forall₂ (Spaced Item) texts as) :
    BodyText close Item ([','].intercalate texts ++ [close]) as := by
  cases h with
  | nil => exact .empty blanks_nil
  | cons ha hrest => exact .items (.of_forall₂ ha hrest)

end Containers

theorem itemChars_eq_intercalate (items : List Json) :
    itemChars items = [','].intercalate (items.map chars) := by
  induction items with
  | nil => rfl
  | cons v rest ih =>
    cases rest with
    | nil => rw [itemChars, List.map_singleton, List.intercalate_singleton]
    | cons w rest =>
      rw [itemChars, ih]
      · simp [List.intercalate_cons_cons]
      · simp

def memberText (member : String × Json) : List Char :=
  writeString member.1 ++ ':' :: member.2.chars

theorem memberChars_eq_intercalate (members : List (String × Json)) :
    memberChars members = [','].intercalate (members.map memberText) := by
  induction members with
  | nil => rfl
  | cons member rest ih =>
    cases rest with
    | nil => rw [memberChars, List.map_singleton, List.intercalate_singleton, memberText]
    | cons w rest =>
      rw [memberChars, ih]
      · simp [List.intercalate_cons_cons, memberText]
      · simp

theorem memberText_spec {Value : List Char → Json → Prop} {key : String} {w v : Json}
    (h : Value w.chars v) : MemberText Value (memberText (key, w)) (key, v) := by
  have hkey := stringText_writeChars key.toList
  have htext : MemberText Value ('"' :: ((key.toList.flatMap writeChar ++ ['"']) ++
      ([] ++ ':' :: ([] ++ w.chars)))) (String.ofList key.toList, v) :=
    .member hkey blanks_nil blanks_nil h
  rw [String.ofList_toList] at htext
  simpa [memberText, writeString] using htext

section Chars
variable [FloatReading] {depth : Nat}

/-- Items that are written as texts of values make an array of these values. -/
theorem ValueText.array_chars {ws vs : List Json}
    (h : List.Forall₂ (fun w v => ValueText depth w.chars v) ws vs) :
    ValueText (depth + 1) (array ws).chars (array vs) := by
  have hitems : List.Forall₂ (Spaced (ValueText depth)) (ws.map Json.chars) vs :=
    List.forall₂_map_left_iff.2 (h.imp fun _ _ hw => .plain hw)
  rw [Json.chars, itemChars_eq_intercalate]
  exact .inr (.array (.of_forall₂ hitems))

/-- Members may be written in any order: the keys are sorted when they are read. -/
theorem ValueText.object_chars {ws vs : List (String × Json)}
    (h : List.Forall₂ (fun w v => v.1 = w.1 ∧ ValueText depth w.2.chars v.2) ws vs) :
    ValueText (depth + 1) (object ws).chars (object (Fields.ofList vs)) := by
  have hmembers : List.Forall₂ (Spaced (MemberText (ValueText depth))) (ws.map memberText) vs := by
    refine List.forall₂_map_left_iff.2 (h.imp fun w v hw => .plain ?_)
    obtain ⟨key, w⟩ := w
    obtain ⟨key', v⟩ := v
    obtain ⟨rfl, hv⟩ := hw
    exact memberText_spec hv
  rw [Json.chars, memberChars_eq_intercalate]
  exact .inr (.object (.of_forall₂ hmembers))

variable (floats : FloatReading.ReadsBack)
include floats

theorem scalarText_chars {v : Json} (harray : v.kind ≠ .array) (hobject : v.kind ≠ .object) :
    ScalarText v.chars v := by
  cases v with
  | null => exact .null
  | boolean b =>
    cases b with
    | true => exact .yes
    | false => exact .no
  | number n => exact .number (.chars floats n)
  | string s =>
    have h := ScalarText.string (stringText_writeChars s.toList)
    rw [String.ofList_toList] at h
    exact h
  | array => exact absurd rfl harray
  | object => exact absurd rfl hobject

/-- What is written of a value is a text of this value. -/
theorem ValueText.chars {v : Json} (h : v.Readable depth) : ValueText depth v.chars v := by
  induction depth generalizing v with
  | zero =>
    obtain ⟨harray, hobject⟩ := kind_of_readable_zero h
    exact scalarText_chars floats harray hobject
  | succ depth ih =>
    cases v with
    | array items =>
      exact .array_chars (List.forall₂_same.2 fun item hitem => ih (readable_array_iff.1 h item hitem))
    | object members =>
      obtain ⟨hsorted, hreadable⟩ := readable_object_iff.1 h
      have hmembers := ValueText.object_chars
        (List.forall₂_same.2 fun member hmember => ⟨rfl, ih (hreadable member hmember)⟩)
      rwa [Fields.ofList_of_sorted hsorted] at hmembers
    | _ => exact .scalar (scalarText_chars floats (by simp [kind]) (by simp [kind])) _

end Chars

end Reader

open Reader

theorem readable_of_read [FloatReading] {text : String} {v : Json} (h : read text = .ok v) :
    v.Readable maxDepth := by
  obtain ⟨_, hv⟩ := (read_eq_ok_iff.1 h).exists_text
  exact hv.readable

/-- What is written of a value that was read is read as this value. -/
theorem read_text [FloatReading] (floats : FloatReading.ReadsBack) {v : Json}
    (h : v.Readable maxDepth) : read v.text = .ok v := by
  rw [read_eq_ok_iff, text, String.toList_ofList]
  exact .plain (.chars floats h)

/-! Written texts have no control characters. -/

theorem no_control_of_isNumberChar {c : Char} (h : IsNumberChar c) : 0x20 ≤ c.toNat := by
  rcases h with hdigit | hmark
  · simp only [Char.isDigit, ge_iff_le, Bool.and_eq_true, decide_eq_true_eq,
      UInt32.le_iff_toNat_le] at hdigit
    have : 48 ≤ c.toNat := hdigit.1
    omega
  · simp only [List.mem_cons, List.not_mem_nil, or_false] at hmark
    rcases hmark with rfl | rfl | rfl | rfl | rfl <;> decide

theorem intercalate_no_control {texts : List (List Char)}
    (h : ∀ text ∈ texts, ∀ c ∈ text, 0x20 ≤ c.toNat) :
    ∀ c ∈ [','].intercalate texts, 0x20 ≤ c.toNat := by
  induction texts with
  | nil => simp
  | cons text rest ih =>
    obtain ⟨htext, hrest⟩ := List.forall_mem_cons.1 h
    cases rest with
    | nil => simpa using htext
    | cons next rest =>
      rw [List.intercalate_cons_cons]
      simp only [List.forall_mem_append]
      exact ⟨⟨htext, by simp⟩, ih hrest⟩

theorem chars_no_control (v : Json) : ∀ c ∈ v.chars, 0x20 ≤ c.toNat := by
  induction v with
  | null => simp [chars]
  | boolean b => cases b <;> simp [chars]
  | number n =>
    exact fun c hc => no_control_of_isNumberChar (numberChars_chars n c hc)
  | string s => exact writeString_no_control s
  | array items ih =>
    rw [chars, itemChars_eq_intercalate]
    have hitems := intercalate_no_control (List.forall_mem_map.2 ih)
    simpa [or_imp, forall_and] using hitems
  | object members ih =>
    rw [chars, memberChars_eq_intercalate]
    have hmembers : ∀ c ∈ [','].intercalate (members.map memberText), 0x20 ≤ c.toNat := by
      refine intercalate_no_control (List.forall_mem_map.2 fun member hmember => ?_)
      refine List.forall_mem_append.2 ⟨writeString_no_control _, ?_⟩
      exact List.forall_mem_cons.2 ⟨by decide, ih member hmember⟩
    simpa [or_imp, forall_and] using hmembers

theorem not_mem_text {c : Char} (h : c.toNat < 0x20) (v : Json) : c ∉ v.text.toList := by
  rw [text, String.toList_ofList]
  intro hc
  exact absurd (chars_no_control v c hc) (by omega)

end Json

end ChangeSieve
