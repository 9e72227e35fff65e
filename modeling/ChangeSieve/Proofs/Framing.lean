import ChangeSieve.Proofs.Container
import ChangeSieve.Proofs.TextParts
import ChangeSieve.Proofs.WrittenText
import ChangeSieve.Record.Framing

/-!
The two framings of records. A text with a record on each line is read as the batch document of the
same texts, and the first text that is no record is the fault that both report.
-/
namespace ChangeSieve
open Outcome

/-! Lines of text. -/

namespace Text

theorem lines_append {line : List Char} (h : '\n' ∉ line) (rest : List Char) :
    lines (line ++ '\n' :: rest) = dropReturn line :: lines rest := by
  obtain ⟨part, parts, hrest⟩ := List.exists_cons_of_ne_nil (split_ne_nil '\n' rest)
  rw [lines, lines, split_append_cons, split_of_not_mem h, hrest, List.singleton_append, linesOfParts]
  simp

theorem lines_of_not_mem {tail : List Char} (h : '\n' ∉ tail) :
    lines tail = if tail = [] then [] else [tail] := by
  rw [lines, split_of_not_mem h, linesOfParts]

theorem dropReturn_append_return (line : List Char) : dropReturn (line ++ ['\r']) = line := by
  simp [dropReturn]

theorem dropReturn_of_not_mem {line : List Char} (h : '\r' ∉ line) : dropReturn line = line := by
  unfold dropReturn
  rw [if_neg]
  intro hlast
  exact h (List.mem_of_getLast? hlast)

theorem mem_of_mem_dropReturn {line : List Char} {c : Char} (h : c ∈ dropReturn line) :
    c ∈ line := by
  unfold dropReturn at h
  split_ifs at h
  · exact List.dropLast_subset _ h
  · exact h

end Text

/-- A line of text; its end is a line feed, with a carriage return before it or without. -/
structure Line where
  text : String
  withReturn : Bool

namespace Line

def written (line : Line) : String := line.text ++ if line.withReturn then "\r\n" else "\n"

def IsBlank (line : Line) : Prop := Text.trim line.text.toList = []

instance (line : Line) : Decidable line.IsBlank := inferInstanceAs (Decidable (_ = _))

def body (line : Line) : List Char :=
  line.text.toList ++ if line.withReturn then ['\r'] else []

def document (lines : List Line) (tail : String) : String :=
  String.join (lines.map written) ++ tail

def recordTexts (lines : List Line) : List String :=
  (lines.filter fun line => ¬line.IsBlank).map text

theorem recordTexts_cons_blank {line : Line} (h : line.IsBlank) (rest : List Line) :
    recordTexts (line :: rest) = recordTexts rest := by
  simp [recordTexts, h]

theorem recordTexts_cons {line : Line} (h : ¬line.IsBlank) (rest : List Line) :
    recordTexts (line :: rest) = line.text :: recordTexts rest := by
  simp [recordTexts, h]

@[simp] theorem document_nil (tail : String) : document [] tail = tail := by
  simp [document]

@[simp] theorem document_cons_toList (line : Line) (rest : List Line) (tail : String) :
    (document (line :: rest) tail).toList = line.body ++ '\n' :: (document rest tail).toList := by
  cases h : line.withReturn <;> simp [document, written, body, h]

theorem lines_document {lines : List Line} (hfeed : ∀ line ∈ lines, '\n' ∉ line.text.toList)
    (tail : String) : Text.lines (document lines tail).toList =
      lines.map (fun line => Text.dropReturn line.body) ++ Text.lines tail.toList := by
  induction lines with
  | nil => rw [document_nil, List.map_nil, List.nil_append]
  | cons line rest ih =>
    obtain ⟨hline, hrest⟩ := List.forall_mem_cons.1 hfeed
    have hbody : '\n' ∉ line.body := by
      unfold body
      split_ifs <;> simp [hline]
    rw [document_cons_toList, Text.lines_append hbody, ih hrest, List.map_cons, List.cons_append]

theorem blank_of_mem_body {line : Line} (h : line.IsBlank) :
    ∀ c ∈ line.body, Text.isBlank c = true := by
  rw [IsBlank, Text.trim_eq_nil_iff] at h
  refine List.forall_mem_append.2 ⟨h, fun c hc => ?_⟩
  split_ifs at hc
  · rw [List.mem_singleton.1 hc]
    decide
  · exact absurd hc List.not_mem_nil

theorem trim_dropReturn_body {line : Line} (h : line.IsBlank) :
    Text.trim (Text.dropReturn line.body) = [] :=
  Text.trim_eq_nil_iff.2 fun c hc => blank_of_mem_body h c (Text.mem_of_mem_dropReturn hc)

end Line

/-! One value on a line. -/

namespace Json.Reader

/-- Blanks before the same text end where its first other character stands. -/
theorem blanks_unique {bs bs' : List Char} {c c' : Char} {rest rest' : List Char}
    (hbs : ∀ c ∈ bs, Text.isBlank c = true) (hbs' : ∀ c ∈ bs', Text.isBlank c = true)
    (hc : Text.isBlank c = false) (hc' : Text.isBlank c' = false)
    (h : bs ++ c :: rest = bs' ++ c' :: rest') : bs = bs' ∧ c :: rest = c' :: rest' := by
  have hrest := congrArg (List.dropWhile Text.isBlank) h
  rw [List.dropWhile_append_of_pos hbs, List.dropWhile_append_of_pos hbs',
    List.dropWhile_cons_of_neg (by simp [hc]), List.dropWhile_cons_of_neg (by simp [hc'])] at hrest
  rw [hrest] at h
  exact ⟨List.append_cancel_right h, hrest⟩

section Values
variable [FloatReading]

theorem WholeText.not_blank {depth : Nat} {cs : List Char} {v : Json} (h : WholeText depth cs v) :
    Text.trim cs ≠ [] := by
  obtain ⟨bs, c, rest, _, rfl, hc, _⟩ := Spaced.exists_start (fun _ _ => ValueText.exists_cons) h
  rw [ne_eq, Text.trim_eq_nil_iff]
  intro hblank
  exact absurd (hblank c (by simp)) (by simp [hc.1])

/-- A carriage return at the end of a text of a value is a blank. -/
theorem WholeText.dropReturn {depth : Nat} {cs : List Char} {v : Json}
    (h : WholeText depth cs v) : WholeText depth (Text.dropReturn cs) v := by
  unfold Text.dropReturn
  split_ifs with hreturn
  · cases h with
    | @blanks bs used es _ hbs hv hes =>
      by_cases hnil : es = []
      · subst hnil
        obtain ⟨c, rest, hused, _⟩ := hv.exists_cons
        rw [List.append_nil, List.getLast?_append_of_ne_nil _ (by simp [hused])] at hreturn
        exact absurd (hv.getLast_not_blank _ hreturn) (by decide)
      · rw [← List.append_assoc, List.dropLast_append_of_ne_nil hnil, List.append_assoc]
        exact .blanks hbs hv fun c hc => hes c (List.dropLast_subset _ hc)
  · exact h

theorem WholeText.body {depth : Nat} {line : Line} {v : Json}
    (h : WholeText depth line.text.toList v) :
    WholeText depth (Text.dropReturn line.body) v := by
  unfold Line.body
  split_ifs
  · rw [Text.dropReturn_append_return]
    exact h
  · rw [List.append_nil]
    exact h.dropReturn

/-- A text starts with at most one value. -/
theorem ValueText.unique {depth : Nat} {used used' rest rest' : List Char} {v v' : Json}
    (h : ValueText depth used v) (h' : ValueText depth used' v') (hrest : EndsNumber rest)
    (hrest' : EndsNumber rest') (heq : used ++ rest = used' ++ rest') : v = v' ∧ rest = rest' := by
  have hread := readsAll_value (max used.length used'.length) depth blanks_nil h (le_max_left _ _) hrest
  have hread' :=
    readsAll_value (max used.length used'.length) depth blanks_nil h' (le_max_right _ _) hrest'
  rw [heq, hread'] at hread
  obtain ⟨hv, hr⟩ := Prod.mk.inj (Except.ok.inj hread)
  exact ⟨hv.symm, hr.symm⟩

/-- A value is no whole text when something other than blanks follows it. -/
theorem not_wholeText_of_more {depth : Nat} {lead cs more : List Char} {v w : Json}
    (hlead : ∀ c ∈ lead, Text.isBlank c = true) (hcs : WholeText depth cs v)
    (hends : EndsNumber more) (hmore : ¬Blanks more) :
    ¬WholeText depth (lead ++ (cs ++ more)) w := by
  intro h
  generalize htext : lead ++ (cs ++ more) = text at h
  obtain ⟨hbs, hv, hes⟩ := hcs
  obtain ⟨hbs', hv', hes'⟩ := h
  obtain ⟨c, rest, hused, hc⟩ := hv.exists_cons
  obtain ⟨c', rest', hused', hc'⟩ := hv'.exists_cons
  have hblank {bs : List Char} (hbs : Blanks bs) : ∀ c ∈ bs, Text.isBlank c = true := fun c hc =>
    by_contra fun hnot => absurd (isBlank_of_text (eq_false_of_ne_true hnot)) (by simp [hbs c hc])
  subst hused hused'
  simp only [List.append_assoc, List.cons_append] at htext
  rw [← List.append_assoc] at htext
  obtain ⟨_, heq⟩ := blanks_unique
    (List.forall_mem_append.2 ⟨hlead, hblank hbs⟩) (hblank hbs') hc.1 hc'.1 htext
  have hrest := (hv.unique hv' (endsNumber_blanks_append hes hends) (endsNumber_of_blanks hes')
    heq).2
  exact hmore (blanks_append_iff.1 (hrest ▸ hes')).2

end Values

end Json.Reader

namespace Line
open Json.Reader

/-- Before its first record text a document is blank. -/
theorem exists_first {lines : List Line} (h : recordTexts lines ≠ []) (tail : String) :
    ∃ lead line after, (∀ c ∈ lead, Text.isBlank c = true) ∧ ¬line.IsBlank ∧ line ∈ lines ∧
      (∀ line ∈ after, line ∈ lines) ∧ recordTexts lines = line.text :: recordTexts after ∧
      (document lines tail).toList =
        lead ++ (line.body ++ '\n' :: (document after tail).toList) := by
  induction lines with
  | nil => exact absurd rfl h
  | cons line rest ih =>
    by_cases hblank : line.IsBlank
    · rw [recordTexts_cons_blank hblank] at h ⊢
      obtain ⟨lead, first, after, hlead, hfirst, hmem, hafter, htexts, hdocument⟩ := ih h
      refine ⟨line.body ++ '\n' :: lead, first, after, ?_, hfirst, List.mem_cons_of_mem _ hmem,
        fun line hline => List.mem_cons_of_mem _ (hafter line hline), htexts, ?_⟩
      · exact List.forall_mem_append.2
          ⟨blank_of_mem_body hblank, List.forall_mem_cons.2 ⟨by decide, hlead⟩⟩
      · rw [document_cons_toList, hdocument]
        simp
    · exact ⟨[], line, rest, by simp, hblank, List.mem_cons_self,
        fun line hline => List.mem_cons_of_mem _ hline, recordTexts_cons hblank rest,
        by rw [document_cons_toList]; rfl⟩

variable [Json.FloatReading]

theorem not_blank {line : Line} {depth : Nat} {v : Json}
    (h : WholeText depth line.text.toList v) : ¬line.IsBlank := h.not_blank

/-- A document with values on two lines is no value itself. -/
theorem read_document_ne_ok {lines : List Line}
    (hlines : ∀ line ∈ lines, line.IsBlank ∨ ∃ v, WholeText Json.maxDepth line.text.toList v)
    (htwo : 2 ≤ (recordTexts lines).length) (tail : String) (w : Json) :
    Json.read (document lines tail) ≠ .ok w := by
  obtain ⟨lead, line, after, hlead, hblank, hmem, hafter, htexts, hdocument⟩ :=
    exists_first (List.length_pos_iff.1 (show 0 < (recordTexts lines).length by omega)) tail
  rw [htexts, List.length_cons] at htwo
  obtain ⟨lead', line', after', _, hblank', _, _, _, hdocument'⟩ :=
    exists_first (List.length_pos_iff.1 (show 0 < (recordTexts after).length by omega)) tail
  obtain ⟨v, hv⟩ := (hlines line hmem).resolve_left hblank
  -- the first text is followed by a line end, and not by blanks alone
  have hmore : ¬Blanks (document after tail).toList := by
    intro hblanks
    refine hblank' (Text.trim_eq_nil_iff.2 fun c hc => ?_)
    have hc' := hblanks c (by simp [hdocument', body, hc])
    by_contra hnot
    exact absurd (isBlank_of_text (eq_false_of_ne_true hnot)) (by simp [hc'])
  rw [ne_eq, Json.read_eq_ok_iff, hdocument, body, List.append_assoc]
  refine not_wholeText_of_more hlead hv ?_ ?_
  · split_ifs <;> exact endsNumber_of_blank (by decide) _
  · exact fun h => hmore fun c hc => h c (by simp [hc])

end Line

namespace Record

open Line Json.Reader

def batchText (texts : List String) : String :=
  "\x7b\"Records\":[" ++ ",".intercalate texts ++ "]\x7d"

theorem batchKeyText : StringText "Records\"".toList batchKey.toList := by
  have hwritten : batchKey.toList.flatMap Json.writeChar ++ ['"'] = "Records\"".toList := by decide
  rw [← hwritten]
  exact stringText_writeChars _

section Documents
variable [Json.FloatReading]

theorem ofText_of_wholeText {text : String} {v : Json}
    (h : WholeText Json.maxDepth text.toList v) :
    ofText text = (decode v).mapError .content := by
  rw [ofText, Json.readAs, Json.read_eq_ok_iff.2 h]

theorem allOfText_document {lines : List Line}
    (hlines : ∀ line ∈ lines, line.IsBlank ∨ ∃ v, WholeText Json.maxDepth line.text.toList v)
    (hfeed : ∀ line ∈ lines, '\n' ∉ line.text.toList)
    (htwo : 2 ≤ (recordTexts lines).length) (tail : String) :
    allOfText (document lines tail) = ofLines 1
      (lines.map (fun line => Text.dropReturn line.body) ++ Text.lines tail.toList) := by
  rw [← lines_document hfeed, allOfText]
  cases hread : Json.read (document lines tail) with
  | error e => rfl
  | ok w => exact absurd hread (read_document_ne_ok hlines htwo tail w)

/-- Blank lines count as lines and hold no records. -/
theorem ofLines_blank {line : Line} (h : line.IsBlank) (index : Nat) (rest : List (List Char)) :
    ofLines index (Text.dropReturn line.body :: rest) = ofLines (index + 1) rest := by
  rw [ofLines, if_pos (trim_dropReturn_body h)]

theorem ofLines_record {line : Line} {v : Json}
    (h : WholeText Json.maxDepth line.text.toList v) (index : Nat) (rest : List (List Char)) :
    ofLines index (Text.dropReturn line.body :: rest) =
      (ofText line.text).mapError (.line index) >>= fun r =>
        (ofLines (index + 1) rest).map (r :: ·) := by
  have hbody : ofText (String.ofList (Text.dropReturn line.body)) = ofText line.text := by
    rw [ofText_of_wholeText h, ofText_of_wholeText (by rw [String.toList_ofList]; exact h.body)]
  rw [ofLines, if_neg h.body.not_blank, hbody]
  cases (ofText line.text).mapError (FramingError.line index) with
  | error e => rfl
  | ok r => cases ofLines (index + 1) rest <;> rfl

def AllRecords (texts : List String) (rs : List Record) : Prop :=
  List.Forall₂ (fun text r => ofText text = .ok r) texts rs

/-- The text of the line after `before` is the first that is no record. -/
structure FirstFault (lines before : List Line) (error : ContentError) : Prop where
  earlier : ∃ rs, AllRecords (recordTexts before) rs
  fault : ∃ line after, lines = before ++ line :: after ∧ ¬line.IsBlank ∧
    ofText line.text = .error (.content error)

theorem AllRecords.cons {text : String} {r : Record} {texts : List String} {rs : List Record}
    (h : ofText text = .ok r) (hrest : AllRecords texts rs) :
    AllRecords (text :: texts) (r :: rs) :=
  List.Forall₂.cons h hrest

theorem FirstFault.cons_blank {line : Line} {lines before : List Line} {error : ContentError}
    (hline : line.IsBlank) (h : FirstFault lines before error) :
    FirstFault (line :: lines) (line :: before) error := by
  obtain ⟨hearlier, faulty, after, rfl, hfault⟩ := h
  exact ⟨by rwa [recordTexts_cons_blank hline], faulty, after, rfl, hfault⟩

theorem FirstFault.cons_record {line : Line} {lines before : List Line} {error : ContentError}
    {r : Record} (hline : ¬line.IsBlank) (hr : ofText line.text = .ok r)
    (h : FirstFault lines before error) : FirstFault (line :: lines) (line :: before) error := by
  obtain ⟨⟨rs, hrs⟩, faulty, after, rfl, hfault⟩ := h
  refine ⟨⟨r :: rs, ?_⟩, faulty, after, rfl, hfault⟩
  rw [recordTexts_cons hline]
  exact hrs.cons hr

/-- Lines are read one by one up to the first that is no record. -/
theorem ofLines_spec {lines : List Line} {rest : List (List Char)}
    (hlines : ∀ line ∈ lines, line.IsBlank ∨ ∃ v, WholeText Json.maxDepth line.text.toList v)
    (hrest : ∀ index, ofLines index rest = .ok []) (index : Nat) :
    (∃ rs, AllRecords (recordTexts lines) rs ∧ ofLines index
      (lines.map (fun line => Text.dropReturn line.body) ++ rest) = .ok rs) ∨
    ∃ before error, FirstFault lines before error ∧ ofLines index
      (lines.map (fun line => Text.dropReturn line.body) ++ rest) =
        .error (.line (index + before.length) (.content error)) := by
  induction lines generalizing index with
  | nil => exact .inl ⟨[], .nil, hrest index⟩
  | cons line tail ih =>
    obtain ⟨hline, htail⟩ := List.forall_mem_cons.1 hlines
    have hlater (before : List Line) :
        index + 1 + before.length = index + (line :: before).length := by
      rw [List.length_cons]
      omega
    rw [List.map_cons, List.cons_append]
    rcases hline with hblank | ⟨v, hv⟩
    · rw [ofLines_blank hblank]
      rcases ih htail (index + 1) with ⟨rs, hrs, hread⟩ | ⟨before, error, hfault, hread⟩
      · exact .inl ⟨rs, by rwa [recordTexts_cons_blank hblank], hread⟩
      · exact .inr ⟨line :: before, error, hfault.cons_blank hblank, by rw [hread, hlater]⟩
    · have hblank := not_blank hv
      have htext := ofText_of_wholeText hv
      rw [ofLines_record hv]
      cases hdecode : decode v with
      | error e =>
        rw [hdecode] at htext
        refine .inr ⟨[], e, ⟨⟨[], .nil⟩, line, tail, rfl, hblank, htext⟩, ?_⟩
        rw [htext]
        rfl
      | ok r =>
        rw [hdecode] at htext
        rw [htext]
        rcases ih htail (index + 1) with ⟨rs, hrs, hread⟩ | ⟨before, error, hfault, hread⟩
        · refine .inl ⟨r :: rs, ?_, by rw [hread]; rfl⟩
          rw [recordTexts_cons hblank]
          exact hrs.cons htext
        · refine .inr ⟨line :: before, error, hfault.cons_record hblank htext, ?_⟩
          rw [hread, ← hlater]
          rfl

/-! A batch document. -/

theorem wholeText_batch {texts : List String} {vs : List Json} {depth : Nat}
    (h : List.Forall₂ (fun text v => WholeText depth text.toList v) texts vs) :
    WholeText (depth + 2) (batchText texts).toList (.object [(batchKey, .array vs)]) := by
  have hitems : List.Forall₂ (WholeText depth) (texts.map String.toList) vs :=
    List.forall₂_map_left_iff.2 h
  have harray : ValueText (depth + 1) _ _ := .inr (.array (.of_forall₂ hitems))
  have hmember := MemberText.member batchKeyText blanks_nil blanks_nil harray
  rw [String.ofList_toList] at hmember
  have hobject : ValueText (depth + 2) _ _ := .inr (.object (.items (.last (.plain hmember))))
  have hmembers : Fields.ofList [(batchKey, Json.array vs)] = [(batchKey, .array vs)] := rfl
  rw [hmembers] at hobject
  have htext := Spaced.plain hobject
  rw [WholeText]
  simpa [batchText, String.toList_intercalate] using htext

theorem decodeItems_of_texts {texts : List String} {vs : List Json}
    (h : List.Forall₂ (fun text v => WholeText Json.maxDepth text.toList v) texts vs) :
    (decodeItems vs).mapError InputError.content = texts.mapM ofText := by
  induction h with
  | nil => rfl
  | @cons text v texts vs hv _ ih =>
    rw [decodeItems, List.mapM_cons, ← ih, ofText_of_wholeText hv]
    cases decode v with
    | error e => rfl
    | ok r => cases decodeItems vs <;> rfl

/-- A batch is read as its texts are read one after the other. -/
theorem allOfText_batch {texts : List String}
    (h : ∀ text ∈ texts, ∃ v, WholeText 125 text.toList v) :
    allOfText (batchText texts) = (texts.mapM ofText).mapError .whole := by
  obtain ⟨vs, hvs⟩ := (exists_forall₂_iff fun _ _ => Iff.rfl).2 h
  have hread : Json.read (batchText texts) = .ok (.object [(batchKey, .array vs)]) :=
    Json.read_eq_ok_iff.2 (wholeText_batch hvs)
  rw [← decodeItems_of_texts (hvs.imp fun _ _ hv => hv.mono (by decide)), allOfText, hread]
  have hbatch : isBatch (.object [(batchKey, .array vs)]) = true := rfl
  simp only [hbatch, if_true]
  show (decodeItems vs).mapError _ = _
  cases decodeItems vs <;> rfl

theorem mapM_of_firstFault {lines before : List Line} {error : ContentError}
    (h : FirstFault lines before error) :
    (recordTexts lines).mapM ofText = .error (.content error) := by
  obtain ⟨⟨rs, hrs⟩, line, after, rfl, hblank, hfault⟩ := h
  have htexts : recordTexts (before ++ line :: after) =
      recordTexts before ++ line.text :: recordTexts after := by
    simp [recordTexts, hblank]
  rw [htexts, List.mapM_append, mapM_eq_ok_iff.2 hrs, List.mapM_cons, hfault]
  rfl

/--
A document with a record on each line is read as the batch of the same texts. The first text that is
no record fails both with the same complaint, and the document names the line that it stands on.
-/
theorem allOfText_document_agrees_with_batch {lines : List Line} {tail : String}
    (hlines : ∀ line ∈ lines, '\n' ∉ line.text.toList ∧
      (line.IsBlank ∨ ∃ v, WholeText 125 line.text.toList v))
    (htail : '\n' ∉ tail.toList ∧ Text.trim tail.toList = [])
    (htwo : 2 ≤ (recordTexts lines).length) :
    (∃ rs, AllRecords (recordTexts lines) rs ∧ allOfText (document lines tail) = .ok rs ∧
      allOfText (batchText (recordTexts lines)) = .ok rs) ∨
    ∃ before error, FirstFault lines before error ∧
      allOfText (document lines tail) =
        .error (.line (before.length + 1) (.content error)) ∧
      allOfText (batchText (recordTexts lines)) = .error (.whole (.content error)) := by
  have hdeep : ∀ line ∈ lines, line.IsBlank ∨ ∃ v, WholeText Json.maxDepth line.text.toList v :=
    fun line hline => (hlines line hline).2.imp_right fun ⟨v, hv⟩ => ⟨v, hv.mono (by decide)⟩
  have htexts : ∀ text ∈ recordTexts lines, ∃ v, WholeText 125 text.toList v := by
    intro text htext
    obtain ⟨line, hline, rfl⟩ := List.mem_map.1 htext
    obtain ⟨hmem, hblank⟩ := List.mem_filter.1 hline
    exact (hlines line hmem).2.resolve_left (of_decide_eq_true hblank)
  have hend (index : Nat) : ofLines index (Text.lines tail.toList) = .ok [] := by
    rw [Text.lines_of_not_mem htail.1]
    split_ifs
    · rfl
    · rw [ofLines, if_pos htail.2]
      rfl
  rw [allOfText_document hdeep (fun line hline => (hlines line hline).1) htwo,
    allOfText_batch htexts]
  rcases ofLines_spec hdeep hend 1 with ⟨rs, hrs, hread⟩ | ⟨before, error, hfault, hread⟩
  · refine .inl ⟨rs, hrs, hread, ?_⟩
    rw [mapM_eq_ok_iff.2 hrs]
    rfl
  · refine .inr ⟨before, error, hfault, ?_, ?_⟩
    · rw [hread, Nat.add_comm]
    · rw [mapM_of_firstFault hfault]
      rfl

end Documents

def faultyLines : List Line :=
  [⟨"null", true⟩, ⟨" ", false⟩, ⟨"\x7b\"N\":\"x\"\x7d", false⟩]

section Nearest
attribute [local instance] Json.FloatReading.nearest

theorem allOfText_faultyLines_agrees_with_batch :
    (∃ rs, AllRecords (recordTexts faultyLines) rs ∧
      allOfText (document faultyLines "") = .ok rs ∧
      allOfText (batchText (recordTexts faultyLines)) = .ok rs) ∨
    ∃ before error, FirstFault faultyLines before error ∧
      allOfText (document faultyLines "") =
        .error (.line (before.length + 1) (.content error)) ∧
      allOfText (batchText (recordTexts faultyLines)) = .error (.whole (.content error)) := by
  refine allOfText_document_agrees_with_batch ?_ (by decide) (by decide)
  have hnull : WholeText 125 "null".toList .null := wholeText_iff.2 ⟨[], rfl, rfl⟩
  have hcontainer : WholeText 125 "\x7b\"N\":\"x\"\x7d".toList (.object [("N", .string "x")]) :=
    wholeText_iff.2 ⟨[], rfl, rfl⟩
  intro line hline
  simp only [faultyLines, List.mem_cons, List.not_mem_nil, or_false] at hline
  rcases hline with rfl | rfl | rfl
  · exact ⟨by decide, .inr ⟨_, hnull⟩⟩
  · exact ⟨by decide, .inl (by decide)⟩
  · exact ⟨by decide, .inr ⟨_, hcontainer⟩⟩

end Nearest

end Record

end ChangeSieve
