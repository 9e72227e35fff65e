import ChangeSieve.Proofs.Fields
import ChangeSieve.Proofs.TextParts
import ChangeSieve.Settings

/-!
Tables that are configured by one text of entries. A text after a comma overrides what the text before
it configures, and pairs that are written as entries are read back: of the pairs with one reference
the last counts.
-/
namespace ChangeSieve.Settings
open Text

/-! Entries as they are written. -/

structure Configurable (reference table : String) : Prop where
  reference_ne : reference ≠ ""
  reference_trimmed : Trimmed reference.toList
  reference_comma : ',' ∉ reference.toList
  reference_sign : '=' ∉ reference.toList
  table_ne : table ≠ ""
  table_trimmed : Trimmed table.toList
  table_comma : ',' ∉ table.toList

instance (reference table : String) : Decidable (Configurable reference table) :=
  decidable_of_iff
    ((reference ≠ "" ∧ Trimmed reference.toList ∧ ',' ∉ reference.toList ∧ '=' ∉ reference.toList) ∧
      table ≠ "" ∧ Trimmed table.toList ∧ ',' ∉ table.toList)
    ⟨fun ⟨⟨h₁, h₂, h₃, h₄⟩, h₅, h₆, h₇⟩ => ⟨h₁, h₂, h₃, h₄, h₅, h₆, h₇⟩,
      fun ⟨h₁, h₂, h₃, h₄, h₅, h₆, h₇⟩ => ⟨⟨h₁, h₂, h₃, h₄⟩, h₅, h₆, h₇⟩⟩

/-- The text of an entry, with any white space around the reference and the table. -/
inductive PairText : String → String → String → Prop where
  | sides {front rest reference table : String} (hfront : Padded front.toList reference.toList)
      (hrest : Padded rest.toList table.toList) (h : Configurable reference table) :
      PairText (front ++ "=" ++ rest) reference table

/-- A text between commas without an equals sign, or with only white space on one side of the first. -/
inductive Malformed : String → Prop where
  | noSign {text : String} (hcomma : ',' ∉ text.toList) (hsign : '=' ∉ text.toList) : Malformed text
  | blankReference {front rest : String} (hfront : AllBlank front.toList)
      (hcomma : ',' ∉ rest.toList) : Malformed (front ++ "=" ++ rest)
  | blankTable {front rest : String} (hcomma : ',' ∉ front.toList) (hsign : '=' ∉ front.toList)
      (hrest : AllBlank rest.toList) : Malformed (front ++ "=" ++ rest)

/-- Texts that are entries of pairs in this order, with malformed texts among them. -/
inductive EntryTexts : List String → List (String × String) → Prop where
  | nil : EntryTexts [] []
  | pair {text reference table : String} {texts : List String} {pairs : List (String × String)}
      (h : PairText text reference table) (rest : EntryTexts texts pairs) :
      EntryTexts (text :: texts) ((reference, table) :: pairs)
  | malformed {text : String} {texts : List String} {pairs : List (String × String)}
      (h : Malformed text) (rest : EntryTexts texts pairs) : EntryTexts (text :: texts) pairs

/-! One entry. -/

theorem toList_sides (front rest : String) :
    (front ++ "=" ++ rest).toList = front.toList ++ '=' :: rest.toList := by
  simp

theorem tableEntry?_of_noSign {cs : List Char} (h : '=' ∉ cs) : tableEntry? cs = none := by
  unfold tableEntry?
  rw [splitOnce?_eq_none_iff.2 h]
  rfl

theorem tableEntry?_sides {front : String} (h : '=' ∉ front.toList) (rest : String) :
    tableEntry? (front ++ "=" ++ rest).toList =
      if trim front.toList = [] ∨ trim rest.toList = [] then none
      else some (String.ofList (trim front.toList), String.ofList (trim rest.toList)) := by
  unfold tableEntry?
  rw [splitOnce?_eq_some_iff.2 ⟨toList_sides front rest, h⟩]
  rfl

section
variable {text reference table : String}

theorem PairText.read (h : PairText text reference table) :
    tableEntry? text.toList = some (reference, table) := by
  obtain ⟨hfront, hrest, h⟩ := h
  rw [tableEntry?_sides (hfront.not_mem (by decide) h.reference_sign),
    hfront.trim_eq h.reference_trimmed, hrest.trim_eq h.table_trimmed, if_neg]
  · simp only [String.ofList_toList]
  · simp [h.reference_ne, h.table_ne]

theorem Malformed.read (h : Malformed text) : tableEntry? text.toList = none := by
  cases h with
  | noSign _ hsign => exact tableEntry?_of_noSign hsign
  | blankReference hfront _ =>
    rw [tableEntry?_sides (hfront.not_mem (by decide)), if_pos (.inl (trim_eq_nil_iff.2 hfront))]
  | blankTable _ hsign hrest =>
    rw [tableEntry?_sides hsign, if_pos (.inr (trim_eq_nil_iff.2 hrest))]

theorem comma_not_mem_sides {front rest : String} (hfront : ',' ∉ front.toList)
    (hrest : ',' ∉ rest.toList) : ',' ∉ (front ++ "=" ++ rest).toList := by
  simp [hfront, hrest]

theorem PairText.no_comma (h : PairText text reference table) : ',' ∉ text.toList := by
  obtain ⟨hfront, hrest, h⟩ := h
  exact comma_not_mem_sides (hfront.not_mem (by decide) h.reference_comma)
    (hrest.not_mem (by decide) h.table_comma)

theorem Malformed.no_comma (h : Malformed text) : ',' ∉ text.toList := by
  cases h with
  | noSign hcomma _ => exact hcomma
  | blankReference hfront hcomma => exact comma_not_mem_sides (hfront.not_mem (by decide)) hcomma
  | blankTable hcomma _ hrest => exact comma_not_mem_sides hcomma (hrest.not_mem (by decide))

end

theorem exists_sides {text : String} (h : '=' ∈ text.toList) :
    ∃ front rest : String, text = front ++ "=" ++ rest ∧ '=' ∉ front.toList := by
  cases hcut : splitOnce? '=' text.toList with
  | none => exact absurd h (splitOnce?_eq_none_iff.1 hcut)
  | some sides =>
    obtain ⟨htext, hsign⟩ := splitOnce?_eq_some_iff.1 hcut
    refine ⟨String.ofList sides.1, String.ofList sides.2, String.toList_inj.1 ?_, by simpa using hsign⟩
    simp [htext]

theorem configurable_trim {front rest : List Char} (hfront : ¬AllBlank front)
    (hrest : ¬AllBlank rest) (hsign : '=' ∉ front) (hcomma : ',' ∉ front) (hcomma' : ',' ∉ rest) :
    Configurable (String.ofList (trim front)) (String.ofList (trim rest)) where
  reference_ne h := hfront (trim_eq_nil_iff.1 (by simpa using h))
  reference_trimmed := by simpa using trimmed_trim front
  reference_comma := by simpa using mt mem_of_mem_trim hcomma
  reference_sign := by simpa using mt mem_of_mem_trim hsign
  table_ne h := hrest (trim_eq_nil_iff.1 (by simpa using h))
  table_trimmed := by simpa using trimmed_trim rest
  table_comma := by simpa using mt mem_of_mem_trim hcomma'

/-- A text without commas is malformed or the text of a pair. -/
theorem malformed_or_pairText {text : String} (hcomma : ',' ∉ text.toList) :
    Malformed text ∨ ∃ reference table, PairText text reference table := by
  by_cases hmem : '=' ∈ text.toList
  · obtain ⟨front, rest, rfl, hsign⟩ := exists_sides hmem
    obtain ⟨hcommaFront, hcommaRest⟩ : ',' ∉ front.toList ∧ ',' ∉ rest.toList := by
      simpa using hcomma
    by_cases hfront : AllBlank front.toList
    · exact .inl (.blankReference hfront hcommaRest)
    by_cases hrest : AllBlank rest.toList
    · exact .inl (.blankTable hcommaFront hsign hrest)
    -- the pair is what trimming leaves of both sides
    refine .inr ⟨String.ofList (trim front.toList), String.ofList (trim rest.toList), ?_⟩
    refine .sides ?_ ?_ (configurable_trim hfront hrest hsign hcommaFront hcommaRest)
    · rw [String.toList_ofList]
      exact padded_trim front.toList
    · rw [String.toList_ofList]
      exact padded_trim rest.toList
  · exact .inl (.noSign hcomma hmem)

/-! All entries of a text. -/

def tableEntries (raw : String) : List (String × String) :=
  (split ',' raw.toList).filterMap tableEntry?

theorem parseTableNames_eq (raw : String) :
    parseTableNames raw = Fields.ofList (tableEntries raw) := rfl

theorem tableEntries_append (first second : String) :
    tableEntries (first ++ "," ++ second) = tableEntries first ++ tableEntries second := by
  have htext : (first ++ "," ++ second).toList = first.toList ++ ',' :: second.toList := by simp
  rw [tableEntries, htext, split_append_cons, List.filterMap_append]
  rfl

namespace EntryTexts
variable {texts : List String} {pairs : List (String × String)}

theorem read (h : EntryTexts texts pairs) :
    (texts.map String.toList).filterMap tableEntry? = pairs := by
  induction h with
  | nil => rfl
  | pair h _ ih => rw [List.map_cons, List.filterMap_cons_some h.read, ih]
  | malformed h _ ih => rw [List.map_cons, List.filterMap_cons_none h.read, ih]

theorem no_comma (h : EntryTexts texts pairs) : ∀ text ∈ texts, ',' ∉ text.toList := by
  induction h with
  | nil => simp
  | pair h _ ih => exact List.forall_mem_cons.2 ⟨h.no_comma, ih⟩
  | malformed h _ ih => exact List.forall_mem_cons.2 ⟨h.no_comma, ih⟩

theorem configurable (h : EntryTexts texts pairs) : ∀ pair ∈ pairs, Configurable pair.1 pair.2 := by
  induction h with
  | nil => simp
  | pair h _ ih =>
    obtain ⟨-, -, h⟩ := h
    exact List.forall_mem_cons.2 ⟨h, ih⟩
  | malformed _ _ ih => exact ih

/-- Pairs that are written as entries between commas are read in the same order. -/
theorem tableEntries_eq (h : EntryTexts texts pairs) :
    tableEntries (",".intercalate texts) = pairs := by
  rw [tableEntries, String.toList_intercalate, ← h.read]
  by_cases hne : texts = []
  · subst hne
    rfl
  · have hsplit : split ',' ([','].intercalate (texts.map String.toList)) =
        texts.map String.toList :=
      split_intercalate (by simpa using hne) (by simpa using h.no_comma)
    exact congrArg (List.filterMap tableEntry?) hsplit

end EntryTexts

/-- Texts without commas are entries of some pairs. -/
theorem exists_entryTexts {texts : List String} (h : ∀ text ∈ texts, ',' ∉ text.toList) :
    ∃ pairs, EntryTexts texts pairs := by
  induction texts with
  | nil => exact ⟨[], .nil⟩
  | cons text texts ih =>
    obtain ⟨htext, htexts⟩ := List.forall_mem_cons.1 h
    obtain ⟨pairs, hpairs⟩ := ih htexts
    rcases malformed_or_pairText htext with hmalformed | ⟨reference, table, hpair⟩
    · exact ⟨pairs, .malformed hmalformed hpairs⟩
    · exact ⟨(reference, table) :: pairs, .pair hpair hpairs⟩

/-- Every text is one of entries between commas. -/
theorem exists_texts (raw : String) :
    ∃ texts pairs, EntryTexts texts pairs ∧ raw = ",".intercalate texts := by
  let texts := (split ',' raw.toList).map String.ofList
  have hcomma : ∀ text ∈ texts, ',' ∉ text.toList := by
    intro text htext
    obtain ⟨part, hpart, rfl⟩ := List.mem_map.1 htext
    rw [String.toList_ofList]
    exact not_mem_of_mem_split hpart
  obtain ⟨pairs, hpairs⟩ := exists_entryTexts hcomma
  have htexts : texts.map String.toList = split ',' raw.toList := by simp [texts]
  refine ⟨texts, pairs, hpairs, String.toList_inj.1 ?_⟩
  rw [String.toList_intercalate, htexts]
  exact (intercalate_split ',' raw.toList).symm

theorem configurable_of_mem_tableEntries {raw : String} {pair : String × String}
    (h : pair ∈ tableEntries raw) : Configurable pair.1 pair.2 := by
  obtain ⟨texts, pairs, htexts, rfl⟩ := exists_texts raw
  rw [htexts.tableEntries_eq] at h
  exact htexts.configurable pair h

/--
A text after a comma overrides what the text before it configures. Each reference that is read stands
once; it and its table are trimmed, not empty and without separators. And entries that are written
with any white space around their parts, and with any malformed texts among them, configure for each
of their references, and for no other, the table of its last pair.
-/
theorem parseTableNames_overrides_and_keepsLast :
    (∀ first second reference,
      Fields.get? reference (parseTableNames (first ++ "," ++ second)) =
        (Fields.get? reference (parseTableNames second)).or
          (Fields.get? reference (parseTableNames first))) ∧
    (∀ raw, Fields.Sorted (parseTableNames raw) ∧
      ∀ entry ∈ parseTableNames raw, Configurable entry.1 entry.2) ∧
    ∀ texts pairs, EntryTexts texts pairs →
      Fields.KeepsLast pairs (parseTableNames (",".intercalate texts)) := by
  refine ⟨fun first second reference => ?_, fun raw => ?_, fun texts pairs h => ?_⟩
  · simp only [parseTableNames_eq, tableEntries_append, Fields.get?_ofList_append]
  · obtain ⟨hsorted, hmem⟩ := Fields.ofList_spec (tableEntries raw)
    exact ⟨hsorted, fun entry hentry => configurable_of_mem_tableEntries (hmem entry hentry)⟩
  · rw [parseTableNames_eq, h.tableEntries_eq]
    exact Fields.keepsLast_ofList pairs

/-- An em space, an ideographic space and malformed texts among the entries of one reference. -/
theorem parseTableNames_of_repeated_reference :
    let texts := ["\u2003a = b", "novalue", "", " =x", "y=\u3000", "a= c=d "]
    let pairs := [("a", "b"), ("a", "c=d")]
    EntryTexts texts pairs ∧ Fields.KeepsLast pairs (parseTableNames (",".intercalate texts)) ∧
      Fields.get? "a" (parseTableNames (",".intercalate texts)) = some "c=d" ∧
      ("a", "c=d") ∈ parseTableNames (",".intercalate texts) ∧ Configurable "a" "c=d" := by
  intro texts pairs
  obtain ⟨-, hentries, hkeeps⟩ := parseTableNames_overrides_and_keepsLast
  have hfirst : PairText "\u2003a = b" "a" "b" :=
    @PairText.sides "\u2003a " " b" "a" "b" ⟨['\u2003'], [' '], by decide⟩ ⟨[' '], [], by decide⟩
      (by decide)
  have hlast : PairText "a= c=d " "a" "c=d" :=
    @PairText.sides "a" " c=d " "a" "c=d" ⟨[], [], by decide⟩ ⟨[' '], [' '], by decide⟩ (by decide)
  have htexts : EntryTexts texts pairs :=
    .pair hfirst (.malformed (.noSign (by decide) (by decide))
      (.malformed (.noSign (by decide) (by decide))
        (.malformed (@Malformed.blankReference " " "x" (by decide) (by decide))
          (.malformed (@Malformed.blankTable "y" "\u3000" (by decide) (by decide) (by decide))
            (.pair hlast .nil)))))
  have hnames := hkeeps texts pairs htexts
  have hget := hnames.last [("a", "b")] "a" "c=d" [] rfl (by simp)
  have hmem := Fields.mem_of_get? hget
  exact ⟨htexts, hnames, hget, hmem, (hentries _).2 _ hmem⟩

end ChangeSieve.Settings
