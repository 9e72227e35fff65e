import ChangeSieve.Proofs.OwnFilter

/-!
Spellings of a number: plain, or in a container as a number or as its text. All of them are read as
the same double, in records and in filters, so no pattern tells records apart by them.
-/
namespace ChangeSieve
open Outcome

def Number.spellings (n : Number) : List Json :=
  [.number n, Attribute.container .number (.number n), Attribute.container .number (.string n.text)]

namespace Attribute

/-- A number and its text are the same content of a container. -/
theorem decodeContent_number (n : Number) :
    decodeContent .number (.number n) = .ok (.number n.text) ∧
      decodeContent .number (.string n.text) = .ok (.number n.text) := by
  have hcheck : checkNumber n.text = .ok n.text := by
    refine checkNumber_eq_ok_iff.2 ⟨?_, rfl⟩
    rw [numberOfText?_text, Option.any_some, n.toDouble_isFinite]
  constructor
  all_goals
    rw [decodeContent_of_isFlat (by simp [IsFlat])]
    simp only [decodeFlat, numberText, ok_bind, hcheck, pure_eq_ok_iff]

end Attribute

namespace Record

theorem decode_number_container (n : Number) :
    decode (Attribute.container .number (.number n)) = .ok (.typed (.number n.text)) ∧
      decode (Attribute.container .number (.string n.text)) = .ok (.typed (.number n.text)) := by
  simp only [decode_container_eq_typed_iff]
  exact Attribute.decodeContent_number n

theorem decode_spelling {n : Number} {v : Json} (h : v ∈ n.spellings) :
    decode v = .ok (.number n) ∨ decode v = .ok (.typed (.number n.text)) := by
  simp only [Number.spellings, List.mem_cons, List.not_mem_nil, or_false] at h
  rcases h with rfl | rfl | rfl
  · exact .inl rfl
  · exact .inr (decode_number_container n).1
  · exact .inr (decode_number_container n).2

end Record

theorem Subject.ofRecord_number_text (n : Number) :
    ofRecord (.typed (.number n.text)) = ofRecord (.number n) := by
  show ofNumber? (Attribute.numberOfText? n.text) = _
  rw [Attribute.numberOfText?_text]
  rfl

theorem Pattern.decode_number_filter (key : String) (n : Number) :
    decode (.object [(key, Attribute.container .number (.array [.number n]))]) =
        .ok ⟨[(key, .leaf (.typed (.numbers [n.toDouble])))]⟩ ∧
      decode (.object [(key, Attribute.container .number (.array [.string n.text]))]) =
        .ok ⟨[(key, .leaf (.typed (.numbers [n.toDouble])))]⟩ := by
  have hspelling {item : Json} (h : TypedFilter.NumberSpelling item n.toDouble) :
      (Node.leaf (.typed (.numbers [n.toDouble]))).Spelling
        (Attribute.container .number (.array [item])) :=
    .typed (.options (by simp) (.numbers (.cons h .nil)))
  constructor
  · exact decode_member (hspelling (.number n))
  · exact decode_member (hspelling (.text (Attribute.numberOfText?_text n)))

/-! Records that differ in spellings. -/

/-- Two records differ only in which of their numbers are typed, in one place after another. -/
inductive Record.SameNumbers : Record → Record → Prop where
  | refl (r : Record) : SameNumbers r r
  | number (n : Number) : SameNumbers (.number n) (.typed (.number n.text))
  | item {before after : List Record} {r r' : Record} (h : SameNumbers r r') :
      SameNumbers (.list (before ++ r :: after)) (.list (before ++ r' :: after))
  | field {before after : List (String × Record)} {key : String} {r r' : Record}
      (h : SameNumbers r r') :
      SameNumbers (.object (before ++ (key, r) :: after)) (.object (before ++ (key, r') :: after))
  | symm {r r' : Record} (h : SameNumbers r r') : SameNumbers r' r
  | trans {r r' r'' : Record} (h : SameNumbers r r') (h' : SameNumbers r' r'') :
      SameNumbers r r''

namespace Pattern

theorem Node.admits_of_sameNumbers {r r' : Record} (h : r.SameNumbers r') (node : Node) :
    node.admits (some r) = node.admits (some r') := by
  induction h generalizing node with
  | refl => rfl
  | number n => exact admits_congr (Subject.ofRecord_number_text n).symm (fun _ _ => rfl) node
  | item =>
    refine admits_congr ?_ ?_ node
    · rfl
    · exact fun _ _ => rfl
  | @field before after key r r' _ ih =>
    -- a field before the changed one hides it, and any other key finds the same field in both
    refine admits_congr ?_ (fun key' node => ?_) node
    · rfl
    show node.admits (Fields.get? key' _) = node.admits (Fields.get? key' _)
    rw [Fields.get?_append_cons, Fields.get?_append_cons]
    cases Fields.get? key' before with
    | some part => rfl
    | none =>
      by_cases hkey : key' = key
      · simpa only [hkey, if_true, Option.none_or] using ih node
      · simp only [hkey, if_false]
  | symm _ ih => exact (ih node).symm
  | trans _ _ ih ih' => exact (ih node).trans (ih' node)

theorem admits_of_sameNumbers {r r' : Record} (h : r.SameNumbers r') (p : Pattern) :
    p.admits r = p.admits r' :=
  Node.admits_of_sameNumbers h (.object p.root)

end Pattern

/-! Values that differ in spellings. -/

namespace Record

/--
Two values differ only in how their numbers are spelled, in one place after another. The places are those
that are read as parts of a record, and inside containers whatever the writer of records spells alike.
-/
inductive NumbersRespelled : Json → Json → Prop where
  | spelled {n : Number} {v w : Json} (hv : v ∈ n.spellings) (hw : w ∈ n.spellings) :
      NumbersRespelled v w
  | containers {v w : Json} (h : respell v = respell w) : NumbersRespelled v w
  | item {before after : List Json} {v w : Json} (h : NumbersRespelled v w) :
      NumbersRespelled (.array (before ++ v :: after)) (.array (before ++ w :: after))
  | member {before after : List (String × Json)} {key : String} {v w : Json}
      (hv : isContainer (before ++ (key, v) :: after) = false)
      (hw : isContainer (before ++ (key, w) :: after) = false) (h : NumbersRespelled v w) :
      NumbersRespelled (.object (before ++ (key, v) :: after))
        (.object (before ++ (key, w) :: after))
  | trans {u v w : Json} (h : NumbersRespelled u v) (h' : NumbersRespelled v w) :
      NumbersRespelled u w

theorem sameNumbers_of_decode_spelling {n : Number} {v w : Json} {r : Record}
    (hv : v ∈ n.spellings) (hw : w ∈ n.spellings) (h : decode v = .ok r) :
    ∃ r', decode w = .ok r' ∧ r.SameNumbers r' := by
  have hplain : (Record.number n).SameNumbers (.typed (.number n.text)) := .number n
  rcases decode_spelling hv with hv | hv <;> rcases decode_spelling hw with hw | hw <;>
    obtain rfl := Except.ok.inj (hv.symm.trans h)
  · exact ⟨_, hw, .refl _⟩
  · exact ⟨_, hw, hplain⟩
  · exact ⟨_, hw, hplain.symm⟩
  · exact ⟨_, hw, .refl _⟩

theorem NumbersRespelled.exists_decode {v w : Json} {r : Record} (h : NumbersRespelled v w)
    (hv : decode v = .ok r) : ∃ r', decode w = .ok r' ∧ r.SameNumbers r' := by
  induction h generalizing r with
  | spelled hspelled hspelled' => exact sameNumbers_of_decode_spelling hspelled hspelled' hv
  | containers h =>
    refine ⟨r, ?_, .refl r⟩
    rw [← decode_respell, ← h, decode_respell, hv]
  | @item before after v w _ ih =>
    simp only [decode, decodeItems_eq_mapM, List.mapM_append, List.mapM_cons, bind_eq_ok_iff,
      pure_eq_ok_iff] at hv ⊢
    obtain ⟨_, ⟨rs, hrs, _, ⟨part, hpart, rs', hrs', rfl⟩, rfl⟩, rfl⟩ := hv
    obtain ⟨part', hpart', hsame⟩ := ih hpart
    exact ⟨_, ⟨_, ⟨rs, hrs, _, ⟨part', hpart', rs', hrs', rfl⟩, rfl⟩, rfl⟩, .item hsame⟩
  | @member before after key v w hshape hshape' _ ih =>
    rw [decode_eq_of_not_isContainer hshape] at hv
    rw [decode_eq_of_not_isContainer hshape']
    simp only [decodeMembers_eq_mapM, List.mapM_append, List.mapM_cons, bind_eq_ok_iff,
      pure_eq_ok_iff, map_eq_ok_iff] at hv ⊢
    obtain ⟨_, ⟨fields, hfields, _, ⟨_, ⟨part, hpart, rfl⟩, fields', hfields', rfl⟩, rfl⟩, rfl⟩ := hv
    obtain ⟨part', hpart', hsame⟩ := ih hpart
    exact ⟨_, ⟨_, ⟨fields, hfields, _, ⟨_, ⟨part', hpart', rfl⟩, fields', hfields', rfl⟩, rfl⟩, rfl⟩,
      .field hsame⟩
  | trans _ _ ih ih' =>
    obtain ⟨r', hr', hsame⟩ := ih hv
    obtain ⟨r'', hr'', hsame'⟩ := ih' hr'
    exact ⟨r'', hr'', hsame.trans hsame'⟩

/--
A container with a number is read as the one with its text, a filter sees the same double in every
spelling, and a number among the alternatives of a filter is the same alternative as its text. So a
value that differs from a record only in such spellings is a record too, and every pattern judges both
alike.
-/
theorem numbers_alike_in_all_spellings :
    (∀ n : Number,
      decode (Attribute.container .number (.number n)) =
        decode (Attribute.container .number (.string n.text)) ∧
      (∀ v ∈ n.spellings, ∃ r, decode v = .ok r ∧
        Subject.ofRecord r = .scalar (.number n.toDouble)) ∧
      ∀ key, ∃ p,
        Pattern.decode (.object [(key, Attribute.container .number (.array [.number n]))]) = .ok p ∧
        Pattern.decode (.object [(key, Attribute.container .number (.array [.string n.text]))]) =
          .ok p) ∧
    ∀ v w r, NumbersRespelled v w → decode v = .ok r →
      ∃ r', decode w = .ok r' ∧ ∀ p : Pattern, p.admits r = p.admits r' := by
  constructor
  · intro n
    refine ⟨?_, fun v hv => ?_, fun key => ⟨_, Pattern.decode_number_filter key n⟩⟩
    · rw [(decode_number_container n).1, (decode_number_container n).2]
    · rcases decode_spelling hv with hread | hread
      · exact ⟨_, hread, rfl⟩
      · exact ⟨_, hread, Subject.ofRecord_number_text n⟩
  · intro v w r h hv
    obtain ⟨r', hr', hsame⟩ := h.exists_decode hv
    exact ⟨r', hr', Pattern.admits_of_sameNumbers hsame⟩

/-- An integer half way between two doubles, plain and as a text. -/
theorem numbers_alike_half_way :
    let n := Number.integer 9007199254740993 (by decide)
    let v := Json.object [("a", .array [.number n])]
    let w := Json.object [("a", .array [Attribute.container .number (.string "9007199254740993")])]
    let r := Record.object [("a", .list [.number n])]
    NumbersRespelled v w ∧ decode v = .ok r ∧
      ∃ r', decode w = .ok r' ∧ ∀ p : Pattern, p.admits r = p.admits r' := by
  intro n v w r
  have htext : n.text = "9007199254740993" := by decide
  have hspelled : NumbersRespelled (.number n)
      (Attribute.container .number (.string "9007199254740993")) := by
    rw [← htext]
    exact @NumbersRespelled.spelled n _ _ (by simp [Number.spellings]) (by simp [Number.spellings])
  have hrespelled : NumbersRespelled v w :=
    @NumbersRespelled.member [] [] "a" _ _ rfl rfl (@NumbersRespelled.item [] [] _ _ hspelled)
  have hread : decode v = .ok r := rfl
  exact ⟨hrespelled, hread, numbers_alike_in_all_spellings.2 v w r hrespelled hread⟩

end Record

end ChangeSieve
