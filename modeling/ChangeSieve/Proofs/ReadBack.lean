import ChangeSieve.Proofs.Batches
import ChangeSieve.Proofs.Framing
import ChangeSieve.Proofs.MapOrder

/-!
Reading the output of a delivery. Every record that was read is read again from its line of output,
so a delivery can take the output of another as its input.
-/
namespace ChangeSieve
open Outcome

/-! Records that were read stay readable in the spelling of the writer. -/

namespace Attribute

theorem readable_respellNumber {depth : Nat} {v : Json} (h : v.Readable depth) :
    (respellNumber v).Readable depth := by
  cases v with
  | number n =>
    rw [respellNumber]
    exact Json.readable_of_scalar (by simp [Json.kind]) (by simp [Json.kind]) depth
  | _ => exact h

theorem readable_respellFlag {depth : Nat} {v : Json} (h : v.Readable depth) :
    (respellFlag v).Readable depth := by
  cases v with
  | string s =>
    rw [respellFlag]
    split_ifs <;> exact Json.readable_of_scalar (by simp [Json.kind]) (by simp [Json.kind]) depth
  | _ => exact h

theorem readable_respellFlat {depth : Nat} (d : Descriptor) {content : Json}
    (h : content.Readable depth) : (respellFlat d content).Readable depth := by
  cases d with
  | number => exact readable_respellNumber h
  | null => exact readable_respellFlag h
  | numberSet =>
    cases content with
    | array items =>
      obtain ⟨inner, rfl⟩ := h.exists_inner (.inl rfl)
      refine Json.readable_array_iff.2 (List.forall_mem_map.2 fun item hitem => ?_)
      exact readable_respellNumber (Json.readable_array_iff.1 h item hitem)
    | _ => exact h
  | _ => exact h

theorem readable_respell {depth : Nat} {v : Json} (h : v.Readable depth) :
    (respell v).Readable depth := by
  induction v using container_induction generalizing depth with
  | list items ih =>
    obtain ⟨depth, rfl⟩ := h.exists_inner (.inr rfl)
    have hlist := readable_container_iff.1 h
    obtain ⟨depth, rfl⟩ := hlist.exists_inner (.inl rfl)
    rw [respell_container, respellContent, respellItems_eq_map, readable_container_iff]
    refine Json.readable_array_iff.2 (List.forall_mem_map.2 fun item hitem => ?_)
    exact ih item hitem (Json.readable_array_iff.1 hlist item hitem)
  | map members ih =>
    obtain ⟨depth, rfl⟩ := h.exists_inner (.inr rfl)
    have hmap := readable_container_iff.1 h
    obtain ⟨depth, rfl⟩ := hmap.exists_inner (.inr rfl)
    obtain ⟨hsorted, hmembers⟩ := Json.readable_object_iff.1 hmap
    rw [respell_container, respellContent, respellEntries_eq_map, readable_container_iff]
    refine Json.readable_object_iff.2
      ⟨Fields.sorted_map hsorted _, List.forall_mem_map.2 fun member hmember => ?_⟩
    exact ih member hmember (hmembers member hmember)
  | flat d content hflat =>
    obtain ⟨depth, rfl⟩ := h.exists_inner (.inr rfl)
    rw [respell_container, respellContent_of_isFlat hflat, readable_container_iff]
    exact readable_respellFlat d (readable_container_iff.1 h)
  | other v hne => rwa [respell_of_ne_container hne]

end Attribute

namespace Record

theorem readable_respell {depth : Nat} {v : Json} (h : v.Readable depth) :
    (respell v).Readable depth := by
  induction v generalizing depth with
  | array items ih =>
    obtain ⟨depth, rfl⟩ := h.exists_inner (.inl rfl)
    rw [respell, respellItems_eq_map]
    refine Json.readable_array_iff.2 (List.forall_mem_map.2 fun item hitem => ?_)
    exact ih item hitem (Json.readable_array_iff.1 h item hitem)
  | object members ih =>
    rw [respell]
    split_ifs
    · exact Attribute.readable_respell h
    · obtain ⟨depth, rfl⟩ := h.exists_inner (.inr rfl)
      obtain ⟨hsorted, hmembers⟩ := Json.readable_object_iff.1 h
      rw [respellMembers_eq_map]
      refine Json.readable_object_iff.2
        ⟨Fields.sorted_map hsorted _, List.forall_mem_map.2 fun member hmember => ?_⟩
      exact ih member hmember (hmembers member hmember)
  | _ => exact h

/-- A record whose written form is read as this record. -/
structure Restorable (r : Record) : Prop where
  readable : r.toJson.Readable Json.maxDepth
  decode : decode r.toJson = .ok r

theorem restorable_of_decode {v : Json} {r : Record} {depth : Nat} (hv : v.Readable depth)
    (hdepth : depth ≤ Json.maxDepth) (h : decode v = .ok r) : r.Restorable := by
  constructor
  · rw [toJson_of_decode h]
    exact (readable_respell hv).mono hdepth
  · exact decode_toJson h

theorem restorable_of_decodeItems {items : List Json} {rs : List Record} {depth : Nat}
    (hitems : ∀ item ∈ items, item.Readable depth) (hdepth : depth ≤ Json.maxDepth)
    (h : decodeItems items = .ok rs) : ∀ r ∈ rs, r.Restorable := by
  rw [decodeItems_eq_mapM, mapM_eq_ok_iff] at h
  intro r hr
  obtain ⟨item, hitem, hread⟩ := exists_left_of_forall₂ h hr
  exact restorable_of_decode (hitems item hitem) hdepth hread

theorem isBatch_iff {v : Json} : isBatch v = true ↔
    ∃ members items, v = .object members ∧ Fields.get? batchKey members = some (.array items) := by
  cases v with
  | object members =>
    simp only [isBatch, Json.get?]
    cases hget : Fields.get? batchKey members with
    | none => simp [hget]
    | some w => cases w <;> simp [hget]
  | _ => simp [isBatch, Json.get?]

/-- A batch document holds its records two levels down. -/
theorem restorable_of_decodeBatch {v : Json} {rs : List Record}
    (hv : v.Readable Json.maxDepth) (hbatch : isBatch v = true) (h : decodeBatch v = .ok rs) :
    ∀ r ∈ rs, r.Restorable := by
  obtain ⟨members, items, rfl, hget⟩ := isBatch_iff.1 hbatch
  simp only [decodeBatch, hget, Json.asItems, ok_bind] at h
  have hitems := (Json.readable_object_iff.1 hv).2 _ (Fields.mem_of_get? hget)
  exact restorable_of_decodeItems (Json.readable_array_iff.1 hitems) (by decide) h

section Reading
variable [Json.FloatReading]

theorem restorable_of_ofText {text : String} {r : Record} (h : ofText text = .ok r) :
    r.Restorable := by
  rw [ofText, Json.readAs] at h
  cases hread : Json.read text with
  | error e => simp [hread] at h
  | ok v =>
    rw [hread] at h
    exact restorable_of_decode (Json.readable_of_read hread) le_rfl (mapError_eq_ok_iff.1 h)

theorem restorable_of_ofLines {index : Nat} {lines : List (List Char)} {rs : List Record}
    (h : ofLines index lines = .ok rs) : ∀ r ∈ rs, r.Restorable := by
  induction lines generalizing index rs with
  | nil =>
    obtain rfl := Except.ok.inj h
    simp
  | cons line rest ih =>
    rw [ofLines] at h
    split_ifs at h
    · exact ih h
    · simp only [bind_eq_ok_iff, mapError_eq_ok_iff, pure_eq_ok_iff] at h
      obtain ⟨r, hr, rs, hrs, rfl⟩ := h
      exact List.forall_mem_cons.2 ⟨restorable_of_ofText hr, ih hrs⟩

theorem restorable_of_allOfText {text : String} {rs : List Record} (h : allOfText text = .ok rs) :
    ∀ r ∈ rs, r.Restorable := by
  rw [allOfText] at h
  cases hread : Json.read text with
  | error e =>
    rw [hread] at h
    exact restorable_of_ofLines h
  | ok v =>
    have hv := Json.readable_of_read hread
    simp only [hread] at h
    split_ifs at h with hbatch
    · exact restorable_of_decodeBatch hv hbatch (mapError_eq_ok_iff.1 h)
    · simp only [mapError_eq_ok_iff, map_eq_ok_iff] at h
      obtain ⟨r, hr, rfl⟩ := h
      exact List.forall_mem_singleton.2 (restorable_of_decode hv le_rfl hr)

end Reading

end Record

/-! The output of a delivery. -/

namespace DeliveryFilter

@[simp] theorem keep_keep (filter : DeliveryFilter) (rs : List Record) :
    filter.keep (filter.keep rs) = filter.keep rs := by
  simp [keep]

end DeliveryFilter

namespace Record
open Json.Reader Line

variable {order : MapOrder}

/-- A text that holds records, one on each line, with the entries of their maps in order. -/
def WrittenAs (order : MapOrder) (rs : List Record) (text : String) : Prop :=
  ∃ rs', List.Forall₂ (Arranged order) rs rs' ∧ text = String.join (rs'.map line)

def asLine (r : Record) : Line := ⟨r.text, false⟩

theorem join_line (rs : List Record) :
    String.join (rs.map Record.line) = document (rs.map asLine) "" := by
  simp only [document, List.map_map, Function.comp_def, asLine, written, Bool.false_eq_true,
    if_false, String.append_empty]
  rfl

theorem no_feed_text (r : Record) : '\n' ∉ r.text.toList :=
  Json.not_mem_text (by decide) r.toJson

/-- Only an object with a list of records is written as a batch document. -/
theorem isBatch_toJson {r : Record} (h : isBatch r.toJson = true) :
    ∃ fields items, r = .object fields ∧ Fields.get? batchKey fields = some (.list items) := by
  obtain ⟨members, items, hmembers, hget⟩ := isBatch_iff.1 h
  cases r with
  | object fields =>
    rw [toJson, fieldsToJson_eq_map, Json.object.injEq] at hmembers
    rw [← hmembers, Fields.get?_map, Option.map_eq_some_iff] at hget
    obtain ⟨part, hpart, hitems⟩ := hget
    cases part with
    | list items => exact ⟨fields, items, rfl, hpart⟩
    | typed a => cases a <;> cases hitems
    | _ => cases hitems
  | typed a =>
    -- the key of a container names its type, which is never the key of a batch
    cases a <;> (cases hmembers; cases hget)
  | _ => cases hmembers

section Output
variable [Json.FloatReading]

theorem recordTexts_asLine {rs : List Record}
    (h : ∀ r ∈ rs, ∃ v, WholeText Json.maxDepth r.text.toList v) :
    recordTexts (rs.map asLine) = rs.map Record.text := by
  induction rs with
  | nil => rfl
  | cons r rest ih =>
    obtain ⟨⟨v, hv⟩, hrest⟩ := List.forall_mem_cons.1 h
    have hblank : ¬(asLine r).IsBlank := not_blank hv
    rw [List.map_cons, recordTexts_cons hblank, ih hrest, List.map_cons, asLine]

/-- Lines that are all records are read as these records. -/
theorem ofLines_of_allRecords {lines : List Line} {rs : List Record} {rest : List (List Char)}
    (hlines : ∀ line ∈ lines, line.IsBlank ∨ ∃ v, WholeText Json.maxDepth line.text.toList v)
    (hrest : ∀ index, ofLines index rest = .ok []) (hrs : AllRecords (recordTexts lines) rs) :
    ofLines 1 (lines.map (fun line => Text.dropReturn line.body) ++ rest) = .ok rs := by
  have hall := mapM_eq_ok_iff.2 hrs
  rcases ofLines_spec hlines hrest 1 with ⟨rs', hrs', hread⟩ | ⟨before, error, hfault, _⟩
  · rw [mapM_eq_ok_iff.2 hrs'] at hall
    rw [hread, Except.ok.inj hall]
  · rw [mapM_of_firstFault hfault] at hall
    cases hall

variable (floats : Json.FloatReading.ReadsBack)
include floats

/-- In whatever order the entries of its maps are written, the text is one of the same value. -/
theorem Restorable.wholeText {r r' : Record} (h : r.Restorable) (hr : r.Arranged order r') :
    WholeText Json.maxDepth r'.text.toList r.toJson := by
  rw [text, Json.text, String.toList_ofList]
  exact .plain (valueText_of_arranged floats hr h.readable)

theorem Restorable.ofText_text {r r' : Record} (h : r.Restorable) (hr : r.Arranged order r') :
    ofText r'.text = .ok r := by
  rw [ofText_of_wholeText (h.wholeText floats hr), h.decode]
  rfl

theorem allOfText_single {r r' : Record} (h : r.Restorable) (hr : r.Arranged order r')
    (hbatch : isBatch r.toJson = false) : allOfText (document [r'.asLine] "") = .ok [r] := by
  have hread : Json.read (document [r'.asLine] "") = .ok r.toJson := by
    have hfeed : Blanks ['\n'] := by simp [Blanks, isBlank]
    have htext : WholeText Json.maxDepth ([] ++ (r'.toJson.chars ++ ['\n'])) r.toJson :=
      .blanks blanks_nil (valueText_of_arranged floats hr h.readable) hfeed
    rw [Json.read_eq_ok_iff, document_cons_toList, document_nil]
    simpa [body, asLine, Record.text, Json.text] using htext
  rw [allOfText, hread]
  simp only [hbatch, Bool.false_eq_true, if_false, h.decode]
  rfl

/-- Lines of output are read as the records that they were written from. -/
theorem allOfText_of_writtenAs {rs : List Record} {text : String} (h : ∀ r ∈ rs, r.Restorable)
    (htext : WrittenAs order rs text)
    (hbatch : ∀ r, rs = [r] → isBatch r.toJson = false) : allOfText text = .ok rs := by
  obtain ⟨rs', harranged, rfl⟩ := htext
  have hread := forall₂_imp_of_mem harranged fun r hr _ hrr =>
    And.intro ((h r hr).wholeText floats hrr) ((h r hr).ofText_text floats hrr)
  have hvalues : ∀ r' ∈ rs', ∃ v, WholeText Json.maxDepth r'.text.toList v := by
    intro r' hr'
    obtain ⟨r, _, hv, _⟩ := exists_left_of_forall₂ hread hr'
    exact ⟨_, hv⟩
  have hlines : ∀ line ∈ rs'.map asLine, line.IsBlank ∨
      ∃ v, WholeText Json.maxDepth line.text.toList v :=
    List.forall_mem_map.2 fun r hr => .inr (hvalues r hr)
  have hfeed : ∀ line ∈ rs'.map asLine, '\n' ∉ line.text.toList :=
    List.forall_mem_map.2 fun r _ => no_feed_text r
  have htexts := recordTexts_asLine hvalues
  have hrecords : AllRecords (recordTexts (rs'.map asLine)) rs := by
    rw [htexts]
    exact List.forall₂_map_left_iff.2 (hread.flip.imp fun _ _ hr => hr.2)
  have hlong (htwo : 2 ≤ rs'.length) : allOfText (document (rs'.map asLine) "") = .ok rs := by
    rw [allOfText_document hlines hfeed (by rwa [htexts, List.length_map])]
    exact ofLines_of_allRecords hlines (fun _ => rfl) hrecords
  rw [join_line]
  -- a single line is a whole text itself, so it is not read line by line
  rcases harranged with _ | ⟨hr, _ | ⟨_, _⟩⟩
  · rfl
  · exact allOfText_single floats (h _ (by simp)) hr (hbatch _ rfl)
  · exact hlong (by simp)

end Output

end Record

def MapOrder.reversed : MapOrder :=
  ⟨fun _ entries => entries.reverse, fun _ entries => entries.reverse_perm⟩

def twoEntries : Record := .typed (.map [("a", .string "1"), ("b", .string "2")])

theorem Record.restorable_marker : (typed (.null true)).Restorable where
  readable := Attribute.readable_container_iff.2
    (Json.readable_of_scalar (by simp [Json.kind]) (by simp [Json.kind]) _)
  decode := rfl

theorem restorable_twoEntries : twoEntries.Restorable := by
  constructor
  · have hentries : ∀ entry ∈ [("a", Attribute.container .string (.string "1")),
        ("b", Attribute.container .string (.string "2"))], entry.2.Readable 125 := by
      simp
    have hkeys : ["a", "b"].Pairwise (· < ·) := by decide
    exact Attribute.readable_container_iff.2
      (Json.readable_object_iff.2 ⟨List.pairwise_map.1 hkeys, hentries⟩)
  · rfl

namespace DeliveryFilter

/-- The text that a delivery writes of records that were read. -/
def written (filter : DeliveryFilter) (order : MapOrder) (size : Nat) (rs : List Record) : String :=
  (filter.deliver size (order.arrange rs)).output

theorem written_spec (filter : DeliveryFilter) (order : MapOrder) (size : Nat) (rs : List Record) :
    Record.WrittenAs order (filter.keep rs) (filter.written order size rs) :=
  ⟨_, filter.keep_arranged (order.forall₂_arrange rs), filter.deliver_output size _⟩

/--
The output of a delivery is read as the records that were delivered. Delivering them again writes
the same records, in the order in which their maps are then gone through, whatever the batches;
where this is the same order, or no map has two entries, it writes the same output. The exception is
a single record that is a batch itself.
-/
theorem allOfText_output [Json.FloatReading] (floats : Json.FloatReading.ReadsBack) {text : String}
    {rs : List Record} (h : Record.allOfText text = .ok rs) (filter : DeliveryFilter)
    (order : MapOrder) (size : Nat)
    (hbatch : ∀ fields items, filter.keep rs = [.object fields] →
      Fields.get? Record.batchKey fields ≠ some (.list items)) :
    Record.WrittenAs order (filter.keep rs) (filter.written order size rs) ∧
      Record.allOfText (filter.written order size rs) = .ok (filter.keep rs) ∧
      Record.sameItems (filter.keep (order.arrange rs)) (filter.keep rs) = true ∧
      ∀ order' size',
        Record.WrittenAs order' (filter.keep rs) (filter.written order' size' (filter.keep rs)) ∧
        (order'.arrange (filter.keep rs) = filter.keep (order.arrange rs) ∨
            (∀ r ∈ filter.keep rs, r.HasOneOrder) →
          filter.written order' size' (filter.keep rs) = filter.written order size rs) := by
  have hrestorable : ∀ r ∈ filter.keep rs, r.Restorable := fun r hr =>
    Record.restorable_of_allOfText h r (List.mem_of_mem_filter hr)
  have hsingle (r : Record) (hr : filter.keep rs = [r]) : Record.isBatch r.toJson = false := by
    by_contra hnot
    obtain ⟨fields, items, rfl, hget⟩ := Record.isBatch_toJson (eq_true_of_ne_false hnot)
    exact hbatch fields items hr hget
  have hkept := filter.keep_arranged (order.forall₂_arrange rs)
  have hwritten := filter.written_spec order size rs
  refine ⟨hwritten, Record.allOfText_of_writtenAs floats hrestorable hwritten hsingle, ?_, ?_⟩
  · exact Record.sameItems_of_forall₂ (forall₂_imp_of_mem hkept fun r hr _ hrr =>
      Record.same_of_arranged (hrestorable r hr).readable.1 hrr)
  · intro order' size'
    have hagain := filter.written_spec order' size' (filter.keep rs)
    rw [keep_keep] at hagain
    refine ⟨hagain, fun horder => ?_⟩
    have hsame : order'.arrange (filter.keep rs) = filter.keep (order.arrange rs) := by
      rcases horder with hsame | hone
      · exact hsame
      · have harranged := order'.forall₂_arrange (filter.keep rs)
        rw [Record.eq_of_all_arranged hone harranged, Record.eq_of_all_arranged hone hkept]
    rw [written, written, deliver_output, deliver_output, hsame, keep_keep]

section Nearest
attribute [local instance] Json.FloatReading.nearest

/-- A marker and a map of two entries, which is written the other way round. -/
theorem allOfText_output_of_marker :
    let text := "\x7b\"NULL\":true\x7d\n" ++
      "\x7b\"M\":\x7b\"a\":\x7b\"S\":\"1\"\x7d,\"b\":\x7b\"S\":\"2\"\x7d\x7d\x7d\n"
    let rs := [.typed (.null true), twoEntries]
    Json.FloatReading.ReadsBack ∧ Record.allOfText text = .ok rs ∧
      passAll.written .reversed 1 rs = "\x7b\"NULL\":true\x7d\n" ++
        "\x7b\"M\":\x7b\"b\":\x7b\"S\":\"2\"\x7d,\"a\":\x7b\"S\":\"1\"\x7d\x7d\x7d\n" ∧
      Record.allOfText (passAll.written .reversed 1 rs) = .ok rs := by
  intro text rs
  have hfloats := Json.Reader.nearest_readsBack
  have hrestorable : ∀ r ∈ rs, r.Restorable := by
    simp [rs, Record.restorable_marker, restorable_twoEntries]
  have htext : Record.WrittenAs .sorted rs text :=
    ⟨_, MapOrder.sorted.forall₂_arrange rs, by decide⟩
  have hread := Record.allOfText_of_writtenAs hfloats hrestorable htext (by simp [rs])
  have hbatch : ∀ fields items, passAll.keep rs = [.object fields] →
      Fields.get? Record.batchKey fields ≠ some (.list items) := by
    simp [passAll, keep, allows, rs]
  obtain ⟨_, hagain, _⟩ := allOfText_output hfloats hread passAll .reversed 1 hbatch
  exact ⟨hfloats, hread, by decide, hagain⟩

/-- A map of two entries may be written in one order and then, delivered again, in the other. -/
theorem not_forall_written_again_same :
    ¬∀ (order order' : MapOrder) (text : String) (rs : List Record) (filter : DeliveryFilter)
      (size : Nat), Record.allOfText text = .ok rs →
        (∀ fields items, filter.keep rs = [.object fields] →
          Fields.get? Record.batchKey fields ≠ some (.list items)) →
        filter.written order' size (filter.keep rs) = filter.written order size rs := by
  intro hall
  have htext : Record.WrittenAs .sorted [twoEntries] (written passAll .sorted 1 [twoEntries]) :=
    passAll.written_spec .sorted 1 [twoEntries]
  have hread := Record.allOfText_of_writtenAs Json.Reader.nearest_readsBack
    (List.forall_mem_singleton.2 restorable_twoEntries) htext (by rintro _ ⟨⟩; rfl)
  have hsame := hall .reversed .sorted _ _ passAll 1 hread
    (by simp [passAll, keep, allows, twoEntries])
  exact absurd hsame (by decide)

end Nearest

end DeliveryFilter

end ChangeSieve
