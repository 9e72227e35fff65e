import ChangeSieve.Attribute.Encode
import ChangeSieve.Proofs.Base64
import ChangeSieve.Proofs.Induction
import ChangeSieve.Proofs.Outcome
import ChangeSieve.Record.Decode

/-!
Typed containers. The shape that the record reader looks for is a necessary condition of the
decoder of attribute values, so every value that this decoder accepts is read as a container.
-/
namespace ChangeSieve
open Outcome

namespace Descriptor

@[simp] theorem ofName?_eq_some_iff {key : String} {d : Descriptor} :
    ofName? key = some d ↔ d.name = key := by
  constructor
  · intro h
    simpa using List.find?_some h
  · intro h
    subst h
    cases d <;> rfl

theorem name_injective {d d' : Descriptor} (h : d.name = d'.name) : d = d' := by
  have hd := ofName?_eq_some_iff.2 h
  rw [ofName?_eq_some_iff.2 rfl] at hd
  exact (Option.some.inj hd).symm

/-- An object with one key is a container of at most one type and content. -/
@[simp] theorem singleton_inj {α : Type} {d d' : Descriptor} {content content' : α} :
    [(d.name, content)] = [(d'.name, content')] ↔ d = d' ∧ content = content' := by
  simp only [List.cons.injEq, Prod.mk.injEq, and_true]
  exact and_congr_left' ⟨name_injective, congrArg name⟩

end Descriptor

namespace Json

@[simp] theorem asString_eq_ok_iff {v : Json} {s : String} : v.asString = .ok s ↔ v = .string s := by
  cases v <;> simp [asString]

@[simp] theorem asBoolean_eq_ok_iff {v : Json} {b : Bool} : v.asBoolean = .ok b ↔ v = .boolean b := by
  cases v <;> simp [asBoolean]

@[simp] theorem asItems_eq_ok_iff {v : Json} {items : List Json} :
    v.asItems = .ok items ↔ v = .array items := by
  cases v <;> simp [asItems]

end Json

namespace Attribute

theorem numberText_eq_ok_iff {v : Json} {text : String} :
    numberText v = .ok text ↔ v = .string text ∨ ∃ n : Number, v = .number n ∧ n.text = text := by
  cases v <;> simp [numberText]

theorem checkNumber_eq_ok_iff {text checked : String} :
    checkNumber text = .ok checked ↔
      (numberOfText? text).any Double.isFinite = true ∧ text = checked := by
  unfold checkNumber
  split_ifs with hfinite <;> simp [hfinite]

theorem decodeBase64_eq_ok_iff {text : String} {data : List UInt8} :
    decodeBase64 text = .ok data ↔ text = Base64.encode data := by
  rw [decodeBase64, mapError_eq_ok_iff, Base64.decode_eq_ok_iff]

theorem nullFlag_eq_ok_iff {v : Json} {b : Bool} :
    nullFlag v = .ok b ↔ v = .boolean b ∨ v = .string "" ∧ b = true := by
  cases v with
  | string s => by_cases hs : s = "" <;> simp [nullFlag, hs, eq_comm]
  | _ => simp [nullFlag]

@[simp] theorem decodeItems_eq_mapM (items : List Json) : decodeItems items = items.mapM decode := by
  induction items with
  | nil => rfl
  | cons v rest ih => simp only [decodeItems, List.mapM_cons, ih]

@[simp] theorem decodeEntries_eq_mapM (members : List (String × Json)) :
    decodeEntries members =
      members.mapM fun member => (decode member.2).map (Prod.mk member.1) := by
  induction members with
  | nil => rfl
  | cons member rest ih =>
    simp only [decodeEntries, List.mapM_cons, ih]
    cases decode member.2 <;> rfl

@[simp] theorem itemsToJson_eq_map (items : List Attribute) : itemsToJson items = items.map toJson := by
  induction items with
  | nil => rfl
  | cons a rest ih => simp only [itemsToJson, List.map_cons, ih]

@[simp] theorem entriesToJson_eq_map (entries : List (String × Attribute)) :
    entriesToJson entries = entries.map fun entry => (entry.1, entry.2.toJson) := by
  induction entries with
  | nil => rfl
  | cons entry rest ih => simp only [entriesToJson, List.map_cons, ih]

@[simp] theorem decode_container (d : Descriptor) (content : Json) :
    decode (container d content) = decodeContent d content := by
  rw [container, decode, Descriptor.ofName?_eq_some_iff.2 rfl]

/-- Whatever is read as an attribute value is a container of some type. -/
theorem exists_container_of_decode {v : Json} {a : Attribute} (h : decode v = .ok a) :
    ∃ d content, v = container d content ∧ decodeContent d content = .ok a := by
  cases v with
  | object members =>
    match members with
    | [] | _ :: _ :: _ => simp [decode] at h
    | [(key, content)] =>
      cases hname : Descriptor.ofName? key with
      | none => simp [decode, hname] at h
      | some d =>
        obtain rfl := Descriptor.ofName?_eq_some_iff.1 hname
        exact ⟨d, content, rfl, decode_container d content ▸ h⟩
  | _ => simp [decode] at h

theorem fits_of_decodeFlat {d : Descriptor} {content : Json} {a : Attribute}
    (h : decodeFlat d content = .ok a) : d.fits content = true := by
  cases d with
  | string | binary =>
    simp only [decodeFlat, bind_eq_ok_iff, Json.asString_eq_ok_iff] at h
    obtain ⟨s, rfl, _⟩ := h
    rfl
  | number =>
    simp only [decodeFlat, bind_eq_ok_iff, numberText_eq_ok_iff] at h
    obtain ⟨text, rfl | ⟨n, rfl, _⟩, _⟩ := h <;> rfl
  | stringSet | numberSet | binarySet =>
    simp only [decodeFlat, bind_eq_ok_iff, Json.asItems_eq_ok_iff] at h
    obtain ⟨items, rfl, _⟩ := h
    rfl
  | boolean =>
    simp only [decodeFlat, bind_eq_ok_iff, Json.asBoolean_eq_ok_iff] at h
    obtain ⟨b, rfl, _⟩ := h
    rfl
  | null =>
    simp only [decodeFlat, bind_eq_ok_iff, nullFlag_eq_ok_iff] at h
    obtain ⟨b, rfl | ⟨rfl, _⟩, _⟩ := h <;> rfl
  | list | map => simp [decodeFlat] at h

/-- Content without containers inside: all content but the items of a list and the entries of a map. -/
def IsFlat (d : Descriptor) (content : Json) : Prop :=
  (d = .list → content.kind ≠ .array) ∧ (d = .map → content.kind ≠ .object)

theorem decodeContent_of_isFlat {d : Descriptor} {content : Json} (h : IsFlat d content) :
    decodeContent d content = decodeFlat d content := by
  cases content with
  | array items =>
    cases d with
    | list => exact absurd rfl (h.1 rfl)
    | _ => rfl
  | object members =>
    cases d with
    | map => exact absurd rfl (h.2 rfl)
    | _ => rfl
  | _ => rfl

/-- Induction over containers, from those inside a container to the container itself. -/
@[elab_as_elim]
theorem container_induction {motive : Json → Prop}
    (list : ∀ items, (∀ item ∈ items, motive item) → motive (container .list (.array items)))
    (map : ∀ members, (∀ member ∈ members, motive member.2) →
      motive (container .map (.object members)))
    (flat : ∀ d content, IsFlat d content → motive (container d content))
    (other : ∀ v, (∀ d content, v ≠ container d content) → motive v) (v : Json) : motive v := by
  -- a value stands alone or as the content of a container, whose own members come two levels down
  have hboth : motive v ∧ ∀ d, motive (container d v) := by
    induction v with
    | array items ih =>
      refine ⟨other _ (by simp [container]), fun d => ?_⟩
      by_cases hd : d = .list
      · rw [hd]
        exact list items fun item hitem => (ih item hitem).1
      · exact flat d _ ⟨fun h => absurd h hd, fun _ => by simp [Json.kind]⟩
    | object members ih =>
      constructor
      · by_cases h : ∃ d content, .object members = container d content
        · obtain ⟨d, content, h⟩ := h
          rw [h]
          rw [container, Json.object.injEq] at h
          exact (ih (d.name, content) (by simp [h])).2 d
        · exact other _ fun d content hcontent => h ⟨d, content, hcontent⟩
      · intro d
        by_cases hd : d = .map
        · rw [hd]
          exact map members fun member hmember => (ih member hmember).1
        · exact flat d _ ⟨fun _ => by simp [Json.kind], fun h => absurd h hd⟩
    | _ =>
      refine ⟨other _ (by simp [container]), fun d => flat d _ ?_⟩
      simp [IsFlat, Json.kind]
  exact hboth.1

theorem fits_of_decodeContent {d : Descriptor} {content : Json} {a : Attribute}
    (h : decodeContent d content = .ok a) : d.fits content = true := by
  by_cases hflat : IsFlat d content
  · exact fits_of_decodeFlat (decodeContent_of_isFlat hflat ▸ h)
  · cases content <;> cases d <;> simp_all [IsFlat, Json.kind, Descriptor.fits]

end Attribute

namespace Record

@[simp] theorem decodeItems_eq_mapM (items : List Json) : decodeItems items = items.mapM decode := by
  induction items with
  | nil => rfl
  | cons v rest ih => simp only [decodeItems, List.mapM_cons, ih]

@[simp] theorem decodeMembers_eq_mapM (members : List (String × Json)) :
    decodeMembers members =
      members.mapM fun member => (decode member.2).map (Prod.mk member.1) := by
  induction members with
  | nil => rfl
  | cons member rest ih =>
    simp only [decodeMembers, List.mapM_cons, ih]
    cases decode member.2 <;> rfl

theorem isContainer_iff {members : List (String × Json)} :
    isContainer members = true ↔
      ∃ d content, .object members = Attribute.container d content ∧ d.fits content = true := by
  match members with
  | [] | _ :: _ :: _ => simp [isContainer, Attribute.container]
  | [(key, content)] =>
    simp only [isContainer, Option.any_eq_true, Descriptor.ofName?_eq_some_iff,
      Attribute.container, Json.object.injEq, List.cons.injEq, Prod.mk.injEq, and_true]
    constructor
    · intro h
      obtain ⟨d, rfl, hfits⟩ := h
      exact ⟨d, content, ⟨rfl, rfl⟩, hfits⟩
    · intro h
      obtain ⟨d, _, ⟨rfl, rfl⟩, hfits⟩ := h
      exact ⟨d, rfl, hfits⟩

@[simp] theorem isContainer_singleton (d : Descriptor) (content : Json) :
    isContainer [(d.name, content)] = d.fits content := by
  rw [isContainer, Descriptor.ofName?_eq_some_iff.2 rfl, Option.any_some]

theorem decode_eq_of_isContainer {members : List (String × Json)} (h : isContainer members = true) :
    decode (.object members) = (Attribute.decode (.object members)).map typed := by
  rw [decode, if_pos h]
  cases Attribute.decode (.object members) <;> rfl

theorem decode_eq_of_not_isContainer {members : List (String × Json)}
    (h : isContainer members = false) :
    decode (.object members) = (decodeMembers members).map object := by
  rw [decode, h, if_neg Bool.false_ne_true]
  cases decodeMembers members <;> rfl

/-- Content of the right shape is left to the decoder of attribute values. -/
@[simp] theorem decode_container {d : Descriptor} {content : Json} (hfits : d.fits content = true) :
    decode (Attribute.container d content) =
      (Attribute.decodeContent d content).map typed := by
  rw [Attribute.container, decode, isContainer_singleton, if_pos hfits]
  show (Attribute.decode (Attribute.container d content) >>= fun a => pure (typed a)) = _
  rw [Attribute.decode_container]
  cases Attribute.decodeContent d content <;> rfl

/-- Every attribute value is read as itself where it stands alone in a record. -/
theorem decode_of_decode_attribute {v : Json} {a : Attribute} (h : Attribute.decode v = .ok a) :
    decode v = .ok (typed a) := by
  obtain ⟨d, content, rfl, hcontent⟩ := Attribute.exists_container_of_decode h
  rw [decode_container (Attribute.fits_of_decodeContent hcontent), hcontent]
  rfl

end Record

end ChangeSieve
