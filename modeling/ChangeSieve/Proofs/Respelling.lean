import ChangeSieve.Proofs.Container
import ChangeSieve.Record.Encode

/-!
Reading a record and writing it again. Only the spelling of typed containers may change: the reader
takes numbers and null markers in two spellings, and the writer always uses the first.
-/
namespace ChangeSieve
open Outcome

/-! The respelling of a value, which looks at nothing but its containers. -/

namespace Attribute

def respellNumber : Json → Json
  | .number n => .string n.text
  | v => v

def respellFlag : Json → Json
  | .string s => if s = "" then .boolean true else .string s
  | v => v

def respellFlat (d : Descriptor) (content : Json) : Json :=
  match d, content with
  | .number, v => respellNumber v
  | .numberSet, .array items => .array (items.map respellNumber)
  | .null, v => respellFlag v
  | _, v => v

mutual

/-- Respells a container, and the containers in it. -/
def respell : Json → Json
  | .object [(key, content)] =>
    match Descriptor.ofName? key with
    | some d => container d (respellContent d content)
    | none => .object [(key, content)]
  | v => v
  termination_by structural value => value

def respellContent (d : Descriptor) : Json → Json
  | .array items =>
    match d with
    | .list => .array (respellItems items)
    | d => respellFlat d (.array items)
  | .object members =>
    match d with
    | .map => .object (respellEntries members)
    | d => respellFlat d (.object members)
  | v => respellFlat d v
  termination_by structural content => content

def respellItems : List Json → List Json
  | [] => []
  | v :: rest => respell v :: respellItems rest
  termination_by structural items => items

def respellEntries : List (String × Json) → List (String × Json)
  | [] => []
  | (key, v) :: rest => (key, respell v) :: respellEntries rest
  termination_by structural members => members

end

/-- Containers as the writer spells them: a number is a text, and a null marker is a flag. -/
inductive AwsSpelled : Json → Prop where
  | string (s : String) : AwsSpelled (container .string (.string s))
  | number (s : String) : AwsSpelled (container .number (.string s))
  | binary (s : String) : AwsSpelled (container .binary (.string s))
  | stringSet (members : List String) :
      AwsSpelled (container .stringSet (.array (members.map .string)))
  | numberSet (members : List String) :
      AwsSpelled (container .numberSet (.array (members.map .string)))
  | binarySet (members : List String) :
      AwsSpelled (container .binarySet (.array (members.map .string)))
  | boolean (b : Bool) : AwsSpelled (container .boolean (.boolean b))
  | null (b : Bool) : AwsSpelled (container .null (.boolean b))
  | list {items : List Json} (h : ∀ item ∈ items, AwsSpelled item) :
      AwsSpelled (container .list (.array items))
  | map {members : List (String × Json)} (h : ∀ member ∈ members, AwsSpelled member.2) :
      AwsSpelled (container .map (.object members))

end Attribute

namespace Record

mutual

/-- Respells the containers of a record and leaves everything around them as it is. -/
def respell : Json → Json
  | .array items => .array (respellItems items)
  | .object members =>
    if isContainer members then Attribute.respell (.object members)
    else .object (respellMembers members)
  | v => v
  termination_by structural value => value

def respellItems : List Json → List Json
  | [] => []
  | v :: rest => respell v :: respellItems rest
  termination_by structural items => items

def respellMembers : List (String × Json) → List (String × Json)
  | [] => []
  | (key, v) :: rest => (key, respell v) :: respellMembers rest
  termination_by structural members => members

end

/-- The records all of whose containers are in the spelling of the writer. -/
inductive AwsSpelled : Json → Prop where
  | null : AwsSpelled .null
  | boolean (b : Bool) : AwsSpelled (.boolean b)
  | number (n : Number) : AwsSpelled (.number n)
  | string (s : String) : AwsSpelled (.string s)
  | array {items : List Json} (h : ∀ item ∈ items, AwsSpelled item) : AwsSpelled (.array items)
  | container {members : List (String × Json)} (hshape : isContainer members = true)
      (h : Attribute.AwsSpelled (.object members)) : AwsSpelled (.object members)
  | object {members : List (String × Json)} (hshape : isContainer members = false)
      (h : ∀ member ∈ members, AwsSpelled member.2) : AwsSpelled (.object members)

end Record

/-! Attribute values. -/

namespace Attribute

@[simp] theorem respellItems_eq_map (items : List Json) : respellItems items = items.map respell := by
  induction items with
  | nil => rfl
  | cons v rest ih => simp only [respellItems, List.map_cons, ih]

@[simp] theorem respellEntries_eq_map (members : List (String × Json)) :
    respellEntries members = members.map fun member => (member.1, respell member.2) := by
  induction members with
  | nil => rfl
  | cons member rest ih => simp only [respellEntries, List.map_cons, ih]

@[simp] theorem respell_container (d : Descriptor) (content : Json) :
    respell (container d content) = container d (respellContent d content) := by
  rw [container, respell, Descriptor.ofName?_eq_some_iff.2 rfl]

@[simp] theorem numberText_respellNumber (v : Json) : numberText (respellNumber v) = numberText v := by
  cases v <;> rfl

theorem nullFlag_respellFlag (v : Json) : nullFlag (respellFlag v) = nullFlag v := by
  cases v with
  | string s => by_cases hs : s = "" <;> simp [respellFlag, nullFlag, hs]
  | _ => rfl

theorem decodeFlat_respellFlat (d : Descriptor) (content : Json) :
    decodeFlat d (respellFlat d content) = decodeFlat d content := by
  cases d with
  | number => simp only [respellFlat, decodeFlat, numberText_respellNumber]
  | null => simp only [respellFlat, decodeFlat, nullFlag_respellFlag]
  | numberSet =>
    cases content with
    | array items =>
      have htexts : (items.map respellNumber).mapM numberText = items.mapM numberText := by
        rw [List.mapM_map]
        exact mapM_congr_of_mem fun item _ => numberText_respellNumber item
      simp only [respellFlat, decodeFlat, Json.asItems, ok_bind, htexts]
    | _ => rfl
  | _ => rfl

theorem respellContent_of_isFlat {d : Descriptor} {content : Json} (h : IsFlat d content) :
    respellContent d content = respellFlat d content := by
  cases content with
  | array items =>
    cases d with
    | list => exact absurd rfl (h.1 rfl)
    | _ => rfl
  | object members =>
    cases d with
    | map => exact absurd rfl (h.2 rfl)
    | _ => rfl
  | _ => rfl

theorem respell_of_ne_container {v : Json} (h : ∀ d content, v ≠ container d content) :
    respell v = v := by
  cases v with
  | object members =>
    match members with
    | [] | _ :: _ :: _ => rfl
    | [(key, content)] =>
      cases hname : Descriptor.ofName? key with
      | none => simp only [respell, hname]
      | some d =>
        rw [← Descriptor.ofName?_eq_some_iff.1 hname] at h
        exact absurd rfl (h d content)
  | _ => rfl

/-- The decoder does not tell a container from its respelling: not even the errors differ. -/
@[simp] theorem decode_respell (v : Json) : decode (respell v) = decode v := by
  induction v using container_induction with
  | list items ih =>
    have hitems : decodeItems (respellItems items) = decodeItems items := by
      rw [respellItems_eq_map, decodeItems_eq_mapM, decodeItems_eq_mapM, List.mapM_map]
      exact mapM_congr_of_mem ih
    simp only [respell_container, decode_container, respellContent, decodeContent, hitems]
  | map members ih =>
    have hentries : decodeEntries (respellEntries members) = decodeEntries members := by
      rw [respellEntries_eq_map, decodeEntries_eq_mapM, decodeEntries_eq_mapM]
      exact mapM_fields_congr ih
    simp only [respell_container, decode_container, respellContent, decodeContent, hentries]
  | flat d content hflat =>
    have hrespelled : IsFlat d (respellFlat d content) := by
      constructor
      · intro h
        subst h
        exact hflat.1 rfl
      · intro h
        subst h
        exact hflat.2 rfl
    rw [respell_container, decode_container, decode_container, respellContent_of_isFlat hflat,
      decodeContent_of_isFlat hrespelled, decodeContent_of_isFlat hflat, decodeFlat_respellFlat]
  | other v hne => rw [respell_of_ne_container hne]

theorem toJson_of_decodeFlat {d : Descriptor} {content : Json} {a : Attribute}
    (h : decodeFlat d content = .ok a) : a.toJson = container d (respellFlat d content) := by
  cases d with
  | string =>
    simp only [decodeFlat, bind_eq_ok_iff, Json.asString_eq_ok_iff, pure_eq_ok_iff] at h
    obtain ⟨s, rfl, rfl⟩ := h
    rfl
  | number =>
    simp only [decodeFlat, bind_eq_ok_iff, numberText_eq_ok_iff, checkNumber_eq_ok_iff,
      pure_eq_ok_iff] at h
    obtain ⟨text, hcontent, _, ⟨_, rfl⟩, rfl⟩ := h
    obtain rfl | ⟨n, rfl, rfl⟩ := hcontent <;> rfl
  | binary =>
    simp only [decodeFlat, bind_eq_ok_iff, Json.asString_eq_ok_iff, decodeBase64_eq_ok_iff,
      pure_eq_ok_iff] at h
    obtain ⟨_, rfl, data, rfl, rfl⟩ := h
    rfl
  | stringSet =>
    simp only [decodeFlat, bind_eq_ok_iff, Json.asItems_eq_ok_iff, mapM_eq_ok_iff,
      Json.asString_eq_ok_iff, forall₂_eq_map_iff, pure_eq_ok_iff] at h
    obtain ⟨_, rfl, members, rfl, rfl⟩ := h
    rfl
  | numberSet =>
    simp only [decodeFlat, bind_eq_ok_iff, Json.asItems_eq_ok_iff, pure_eq_ok_iff] at h
    obtain ⟨items, rfl, texts, htexts, members, hmembers, rfl⟩ := h
    have hchecked : members.map Json.string = texts.map Json.string := by
      refine map_eq_map_of_mapM hmembers fun text _ checked h => ?_
      rw [(checkNumber_eq_ok_iff.1 h).2]
    have hrespelled : texts.map Json.string = items.map respellNumber := by
      refine map_eq_map_of_mapM htexts fun item _ text h => ?_
      rcases numberText_eq_ok_iff.1 h with rfl | ⟨n, rfl, rfl⟩ <;> rfl
    rw [toJson, hchecked, hrespelled]
    rfl
  | binarySet =>
    simp only [decodeFlat, bind_eq_ok_iff, Json.asItems_eq_ok_iff, mapM_eq_ok_iff,
      Json.asString_eq_ok_iff, decodeBase64_eq_ok_iff, forall₂_eq_map_iff, pure_eq_ok_iff] at h
    obtain ⟨_, rfl, _, rfl, datas, rfl, rfl⟩ := h
    simp only [toJson, respellFlat, List.map_map]
    rfl
  | boolean =>
    simp only [decodeFlat, bind_eq_ok_iff, Json.asBoolean_eq_ok_iff, pure_eq_ok_iff] at h
    obtain ⟨b, rfl, rfl⟩ := h
    rfl
  | null =>
    simp only [decodeFlat, bind_eq_ok_iff, nullFlag_eq_ok_iff, pure_eq_ok_iff] at h
    obtain ⟨b, rfl | ⟨rfl, rfl⟩, rfl⟩ := h <;> rfl
  | list | map => simp [decodeFlat] at h

/-- An attribute value is written as the respelling of what it was read from. -/
theorem toJson_of_decode {v : Json} {a : Attribute} (h : decode v = .ok a) :
    a.toJson = respell v := by
  induction v using container_induction generalizing a with
  | list items ih =>
    simp only [decode_container, decodeContent, bind_eq_ok_iff, pure_eq_ok_iff,
      decodeItems_eq_mapM] at h
    obtain ⟨as, has, rfl⟩ := h
    have hitems : as.map toJson = items.map respell := map_eq_map_of_mapM has fun v hv a => ih v hv
    rw [toJson, itemsToJson_eq_map, hitems, respell_container, respellContent, respellItems_eq_map]
  | map members ih =>
    simp only [decode_container, decodeContent, bind_eq_ok_iff, pure_eq_ok_iff,
      decodeEntries_eq_mapM] at h
    obtain ⟨entries, hentries, rfl⟩ := h
    have hmembers : (entries.map fun entry => (entry.1, entry.2.toJson)) =
        members.map fun member => (member.1, respell member.2) :=
      map_fields_eq_of_mapM hentries fun member hmember a => ih member hmember
    rw [toJson, entriesToJson_eq_map, hmembers, respell_container, respellContent,
      respellEntries_eq_map]
  | flat d content hflat =>
    rw [decode_container, decodeContent_of_isFlat hflat] at h
    rw [toJson_of_decodeFlat h, respell_container, respellContent_of_isFlat hflat]
  | other v hne =>
    obtain ⟨d, content, rfl, _⟩ := exists_container_of_decode h
    exact absurd rfl (hne d content)

theorem map_respellNumber_string (members : List String) :
    (members.map Json.string).map respellNumber = members.map Json.string := by
  simp [respellNumber]

theorem AwsSpelled.respell_eq {v : Json} (h : AwsSpelled v) : respell v = v := by
  induction h with
  | numberSet members =>
    rw [respell_container, respellContent_of_isFlat (by simp [IsFlat]), respellFlat,
      map_respellNumber_string]
  | @list items h ih =>
    have hitems : items.map respell = items := (List.map_congr_left ih).trans (List.map_id items)
    rw [respell_container, respellContent, respellItems_eq_map, hitems]
  | @map members h ih =>
    have hmembers := map_fields_eq_self ih
    rw [respell_container, respellContent, respellEntries_eq_map, hmembers]
  | _ =>
    rw [respell_container]
    rfl

/-- Attribute values are always written in the spelling of the writer. -/
theorem awsSpelled_toJson (a : Attribute) : AwsSpelled a.toJson := by
  induction a with
  | string s => exact .string s
  | number text => exact .number text
  | binary data => exact .binary _
  | stringSet members => exact .stringSet members
  | numberSet members => exact .numberSet members
  | binarySet members =>
    have hmembers : members.map base64 = (members.map Base64.encode).map Json.string := by
      rw [List.map_map]
      rfl
    rw [toJson, hmembers]
    exact .binarySet _
  | boolean b => exact .boolean b
  | null flag => exact .null flag
  | list items ih =>
    rw [toJson, itemsToJson_eq_map]
    exact .list (List.forall_mem_map.2 ih)
  | map entries ih =>
    rw [toJson, entriesToJson_eq_map]
    exact .map (List.forall_mem_map.2 ih)

end Attribute

/-! Records. -/

namespace Record

@[simp] theorem respellItems_eq_map (items : List Json) : respellItems items = items.map respell := by
  induction items with
  | nil => rfl
  | cons v rest ih => simp only [respellItems, List.map_cons, ih]

@[simp] theorem respellMembers_eq_map (members : List (String × Json)) :
    respellMembers members = members.map fun member => (member.1, respell member.2) := by
  induction members with
  | nil => rfl
  | cons member rest ih => simp only [respellMembers, List.map_cons, ih]

@[simp] theorem itemsToJson_eq_map (items : List Record) : itemsToJson items = items.map toJson := by
  induction items with
  | nil => rfl
  | cons r rest ih => simp only [itemsToJson, List.map_cons, ih]

@[simp] theorem fieldsToJson_eq_map (fields : List (String × Record)) :
    fieldsToJson fields = fields.map fun field => (field.1, field.2.toJson) := by
  induction fields with
  | nil => rfl
  | cons field rest ih => simp only [fieldsToJson, List.map_cons, ih]

/-- Respelling keeps the shape that containers are known by. -/
theorem fits_respellContent (d : Descriptor) (content : Json) :
    d.fits (Attribute.respellContent d content) = d.fits content := by
  cases d with
  | null =>
    cases content with
    | string s =>
      by_cases hs : s = "" <;> simp [Attribute.respellContent, Attribute.respellFlat,
        Attribute.respellFlag, hs, Descriptor.fits]
    | _ => rfl
  | _ => cases content <;> rfl

theorem isContainer_respell {members : List (String × Json)} (h : isContainer members = true) :
    ∃ respelled, Attribute.respell (.object members) = .object respelled ∧
      isContainer respelled = true := by
  obtain ⟨d, content, hmembers, hfits⟩ := isContainer_iff.1 h
  rw [hmembers, Attribute.respell_container]
  refine ⟨_, rfl, ?_⟩
  rw [isContainer_singleton, fits_respellContent, hfits]

theorem fits_respell (d : Descriptor) (v : Json) : d.fits (respell v) = d.fits v := by
  cases v with
  | object members =>
    by_cases h : isContainer members = true
    · obtain ⟨respelled, heq, _⟩ := isContainer_respell h
      rw [respell, if_pos h, heq]
      cases d <;> rfl
    · rw [respell, if_neg h]
      cases d <;> rfl
  | _ => cases d <;> rfl

@[simp] theorem isContainer_respellMembers (members : List (String × Json)) :
    isContainer (respellMembers members) = isContainer members := by
  match members with
  | [] | _ :: _ :: _ => rfl
  | [(key, v)] => simp only [respellMembers, isContainer, fits_respell]

/-- The reader of records does not tell a record from its respelling. -/
@[simp] theorem decode_respell (v : Json) : decode (respell v) = decode v := by
  induction v with
  | array items ih =>
    have hitems : decodeItems (respellItems items) = decodeItems items := by
      rw [respellItems_eq_map, decodeItems_eq_mapM, decodeItems_eq_mapM, List.mapM_map]
      exact mapM_congr_of_mem ih
    simp only [respell, decode, hitems]
  | object members ih =>
    by_cases h : isContainer members = true
    · obtain ⟨respelled, heq, hrespelled⟩ := isContainer_respell h
      rw [respell, if_pos h, heq, decode_eq_of_isContainer hrespelled, ← heq,
        Attribute.decode_respell, decode_eq_of_isContainer h]
    · have hmembers : decodeMembers (respellMembers members) = decodeMembers members := by
        rw [respellMembers_eq_map, decodeMembers_eq_mapM, decodeMembers_eq_mapM]
        exact mapM_fields_congr ih
      rw [respell, if_neg h]
      rw [Bool.not_eq_true] at h
      rw [decode_eq_of_not_isContainer h, decode_eq_of_not_isContainer, hmembers]
      rw [isContainer_respellMembers, h]
  | _ => rfl

/-- A record is written as the respelling of what it was read from. -/
theorem toJson_of_decode {v : Json} {r : Record} (h : decode v = .ok r) : r.toJson = respell v := by
  induction v generalizing r with
  | array items ih =>
    simp only [decode, bind_eq_ok_iff, pure_eq_ok_iff, decodeItems_eq_mapM] at h
    obtain ⟨rs, hrs, rfl⟩ := h
    have hitems : rs.map toJson = items.map respell := map_eq_map_of_mapM hrs fun v hv r => ih v hv
    rw [toJson, itemsToJson_eq_map, hitems, respell, respellItems_eq_map]
  | object members ih =>
    by_cases hshape : isContainer members = true
    · rw [decode_eq_of_isContainer hshape, map_eq_ok_iff] at h
      obtain ⟨a, ha, rfl⟩ := h
      rw [respell, if_pos hshape, ← Attribute.toJson_of_decode ha, toJson]
    · rw [respell, if_neg hshape]
      rw [Bool.not_eq_true] at hshape
      rw [decode_eq_of_not_isContainer hshape, map_eq_ok_iff, decodeMembers_eq_mapM] at h
      obtain ⟨fields, hfields, rfl⟩ := h
      have hmembers : (fields.map fun field => (field.1, field.2.toJson)) =
          members.map fun member => (member.1, respell member.2) :=
        map_fields_eq_of_mapM hfields fun member hmember r => ih member hmember
      rw [toJson, fieldsToJson_eq_map, hmembers, respellMembers_eq_map]
  | _ =>
    obtain rfl := Except.ok.inj h
    rfl

/-- What was read is read again from its written form. -/
theorem decode_toJson {v : Json} {r : Record} (h : decode v = .ok r) : decode r.toJson = .ok r := by
  rw [toJson_of_decode h, decode_respell, h]

theorem AwsSpelled.respell_eq {v : Json} (h : AwsSpelled v) : respell v = v := by
  induction h with
  | @array items h ih =>
    have hitems : items.map respell = items := (List.map_congr_left ih).trans (List.map_id items)
    rw [respell, respellItems_eq_map, hitems]
  | container hshape h => rw [respell, if_pos hshape, h.respell_eq]
  | @object members hshape h ih =>
    have hmembers := map_fields_eq_self ih
    rw [respell, hshape, if_neg Bool.false_ne_true, respellMembers_eq_map, hmembers]
  | _ => rfl

theorem awsSpelled_toJson_of_decode {v : Json} {r : Record} (h : decode v = .ok r) :
    AwsSpelled r.toJson := by
  induction v generalizing r with
  | null =>
    obtain rfl := Except.ok.inj h
    exact .null
  | boolean b =>
    obtain rfl := Except.ok.inj h
    exact .boolean b
  | number n =>
    obtain rfl := Except.ok.inj h
    exact .number n
  | string s =>
    obtain rfl := Except.ok.inj h
    exact .string s
  | array items ih =>
    simp only [decode, bind_eq_ok_iff, pure_eq_ok_iff, decodeItems_eq_mapM, mapM_eq_ok_iff] at h
    obtain ⟨rs, hrs, rfl⟩ := h
    rw [toJson, itemsToJson_eq_map]
    refine .array (List.forall_mem_map.2 fun r hr => ?_)
    obtain ⟨v, hv, hread⟩ := exists_left_of_forall₂ hrs hr
    exact ih v hv hread
  | object members ih =>
    have hwritten := toJson_of_decode h
    by_cases hshape : isContainer members = true
    · rw [decode_eq_of_isContainer hshape, map_eq_ok_iff] at h
      obtain ⟨a, ha, rfl⟩ := h
      obtain ⟨respelled, heq, hrespelled⟩ := isContainer_respell hshape
      have hspelled := Attribute.awsSpelled_toJson a
      rw [Attribute.toJson_of_decode ha, heq] at hspelled
      rw [hwritten, respell, if_pos hshape, heq]
      exact .container hrespelled hspelled
    · rw [respell, if_neg hshape] at hwritten
      rw [Bool.not_eq_true] at hshape
      simp only [decode_eq_of_not_isContainer hshape, map_eq_ok_iff, decodeMembers_eq_mapM,
        mapM_eq_ok_iff] at h
      obtain ⟨fields, hfields, rfl⟩ := h
      have hrespelled := isContainer_respellMembers members
      rw [← Json.object.inj hwritten, hshape] at hrespelled
      refine .object hrespelled ?_
      rw [fieldsToJson_eq_map]
      refine List.forall_mem_map.2 fun field hfield => ?_
      obtain ⟨member, hmember, r, hr, rfl⟩ := exists_left_of_forall₂ hfields hfield
      exact ih member hmember hr

/--
A record that was read is written as the respelling of its value, which is in the spelling of the
writer and is read as the same record; so a value already in that spelling is written as it is.
-/
theorem toJson_of_decode_respells {v : Json} {r : Record} (h : decode v = .ok r) :
    r.toJson = respell v ∧ decode r.toJson = .ok r ∧ AwsSpelled r.toJson ∧
      (r.toJson = v ↔ AwsSpelled v) := by
  have hwritten := toJson_of_decode h
  have hspelled := awsSpelled_toJson_of_decode h
  refine ⟨hwritten, ?_, hspelled, ?_⟩
  · rw [hwritten, decode_respell, h]
  · constructor
    · intro heq
      rwa [heq] at hspelled
    · intro hv
      rw [hwritten, hv.respell_eq]

/-- A record with both lenient spellings, and the value that it is written as. -/
theorem toJson_of_decode_lenient :
    let age := Attribute.container .number (.number (.integer 42 (by decide)))
    let gone := Attribute.container .list (.array [Attribute.container .null (.string "")])
    let r := object [("age", typed (.number "42")), ("gone", typed (.list [.null true]))]
    decode (.object [("age", age), ("gone", gone)]) = .ok r ∧
      r.toJson = .object [("age", Attribute.container .number (.string "42")),
        ("gone", Attribute.container .list (.array [Attribute.container .null (.boolean true)]))] ∧
      decode r.toJson = .ok r := by
  intro age gone r
  have hcheck : Attribute.checkNumber "42" = .ok "42" :=
    Attribute.checkNumber_eq_ok_iff.2 ⟨by decide +kernel, rfl⟩
  have htext : (Number.integer 42 (by decide)).text = "42" := by decide
  have hage : Attribute.decode age = .ok (.number "42") := by
    simp only [age, Attribute.decode_container, Attribute.decodeContent, Attribute.decodeFlat,
      Attribute.numberText, ok_bind, htext, hcheck, pure_eq_ok_iff]
  have hread : decode (.object [("age", age), ("gone", gone)]) = .ok r := by
    rw [decode_eq_of_not_isContainer rfl, decodeMembers, decode_of_decode_attribute hage]
    rfl
  exact ⟨hread, rfl, (toJson_of_decode_respells hread).2.1⟩

end Record

end ChangeSieve
