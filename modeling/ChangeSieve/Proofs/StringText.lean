import ChangeSieve.Json.Reader
import ChangeSieve.Json.Writer
import ChangeSieve.Proofs.Outcome
import Mathlib.Data.List.Basic

/-!
The grammar of JSON strings. The reader takes exactly its texts, and a written string is one of them
without control characters.
-/
namespace ChangeSieve.Json.Reader
open Outcome

/-! The grammar. -/

/-- Four hexadecimal digits, the number of a UTF-16 unit. -/
structure UnitText (cs : List Char) (n : Nat) : Prop where
  length : cs.length = 4
  value : Text.hexValue? cs = some n

inductive CharText : List Char → Char → Prop where
  | plain {c : Char} (hquote : c ≠ '"') (hslash : c ≠ '\\') (hcontrol : 0x20 ≤ c.toNat) :
      CharText [c] c
  | short {letter c : Char} (h : shortEscape? letter = some c) : CharText ['\\', letter] c
  | code {ds : List Char} {n : Nat} (hds : UnitText ds n) (hhigh : isHighSurrogate n = false)
      (hlow : isLowSurrogate n = false) : CharText ('\\' :: 'u' :: ds) (Char.ofNat n)
  | surrogates {ds es : List Char} {high low : Nat} (hds : UnitText ds high) (hes : UnitText es low)
      (hhigh : isHighSurrogate high = true) (hlow : isLowSurrogate low = true) :
      CharText ('\\' :: 'u' :: (ds ++ '\\' :: 'u' :: es)) (surrogatePair high low)

inductive StringText : List Char → List Char → Prop where
  | close : StringText ['"'] []
  | char {used tail : List Char} {c : Char} {cs : List Char} (hc : CharText used c)
      (htail : StringText tail cs) : StringText (used ++ tail) (c :: cs)

/-! The reader. -/

theorem toNat_le_of_hexDigit {c : Char} (h : (Text.hexDigit? c).isSome = true) :
    c.toNat ≤ 0x7f := by
  unfold Text.hexDigit? at h
  split_ifs at h with hdigit hsmall hcapital
  · simp only [Char.isDigit, ge_iff_le, Bool.and_eq_true, decide_eq_true_eq,
      UInt32.le_iff_toNat_le] at hdigit
    have : c.toNat ≤ 57 := hdigit.2
    omega
  · have : c.toNat ≤ 102 := hsmall.2
    omega
  · have : c.toNat ≤ 70 := hcapital.2
    omega
  · simp at h

theorem utf8Size_of_hexDigit {c : Char} (h : (Text.hexDigit? c).isSome = true) :
    c.utf8Size = 1 := by
  have hsmall := toNat_le_of_hexDigit h
  rw [Char.utf8Size, if_pos]
  exact hsmall

theorem hexDigits_of_foldlM {cs : List Char} {init n : Nat}
    (h : cs.foldlM (fun n c => (Text.hexDigit? c).map (16 * n + ·)) init = some n) :
    ∀ c ∈ cs, (Text.hexDigit? c).isSome = true := by
  induction cs generalizing init with
  | nil => simp
  | cons c rest ih =>
    simp only [List.foldlM_cons, Option.bind_eq_bind, Option.bind_eq_some_iff,
      Option.map_eq_some_iff] at h
    obtain ⟨_, ⟨d, hd, rfl⟩, hrest⟩ := h
    exact List.forall_mem_cons.2 ⟨by rw [hd]; rfl, ih hrest⟩

theorem foldl_utf8Size {cs : List Char} (h : ∀ c ∈ cs, c.utf8Size = 1) (size : Nat) :
    cs.foldl (fun size c => size + c.utf8Size) size = size + cs.length := by
  induction cs generalizing size with
  | nil => rfl
  | cons c rest ih =>
    obtain ⟨hc, hrest⟩ := List.forall_mem_cons.1 h
    rw [List.foldl_cons, ih hrest, hc, List.length_cons]
    omega

/-- What has a hexadecimal value is all digits, so it has as many bytes as characters. -/
theorem size_of_hexValue {cs : List Char} {n : Nat} (h : Text.hexValue? cs = some n) :
    cs.foldl (fun size c => size + c.utf8Size) 0 = cs.length := by
  rw [foldl_utf8Size fun c hc => utf8Size_of_hexDigit (hexDigits_of_foldlM h c hc), Nat.zero_add]

theorem unit_eq_ok_iff {cs rest : List Char} {n : Nat} :
    unit cs = .ok (n, rest) ↔ ∃ ds, UnitText ds n ∧ cs = ds ++ rest := by
  constructor
  · intro h
    simp only [unit] at h
    split_ifs at h with hshort
    split at h
    next value hvalue =>
      obtain ⟨rfl, rfl⟩ := Prod.mk.inj (Except.ok.inj h)
      rw [size_of_hexValue hvalue, List.length_take] at hshort
      exact ⟨cs.take 4, ⟨by rw [List.length_take]; omega, hvalue⟩,
        (List.take_append_drop 4 cs).symm⟩
    next => cases h
  · intro h
    obtain ⟨ds, hds, rfl⟩ := h
    have hsize := size_of_hexValue hds.value
    simp only [unit, List.take_left' hds.length, List.drop_left' hds.length, hsize, hds.length,
      hds.value]
    rfl

theorem exists_text_of_unicodeEscape {cs rest : List Char} {c : Char}
    (h : unicodeEscape cs = .ok (c, rest)) :
    ∃ used, CharText ('\\' :: 'u' :: used) c ∧ cs = used ++ rest := by
  simp only [unicodeEscape, bind_eq_ok_iff, Prod.exists, unit_eq_ok_iff] at h
  obtain ⟨high, rest', ⟨ds, hds, rfl⟩, h⟩ := h
  split_ifs at h with hlow hhigh
  · split at h
    next tail =>
      simp only [bind_eq_ok_iff, Prod.exists, unit_eq_ok_iff] at h
      obtain ⟨low, rest'', ⟨es, hes, rfl⟩, h⟩ := h
      split_ifs at h with hpair
      obtain ⟨rfl, rfl⟩ := Prod.mk.inj (Except.ok.inj h)
      exact ⟨_, .surrogates hds hes hhigh hpair, by simp⟩
    next => cases h
    next => cases h
  · obtain ⟨rfl, rfl⟩ := Prod.mk.inj (Except.ok.inj h)
    exact ⟨ds, .code hds (eq_false_of_ne_true hhigh) (eq_false_of_ne_true hlow),
      rfl⟩

theorem exists_text_of_stringChar {x c : Char} {cs rest : List Char} (hquote : x ≠ '"')
    (h : stringChar x cs = .ok (c, rest)) : ∃ used, CharText (x :: used) c ∧ cs = used ++ rest := by
  simp only [stringChar] at h
  split_ifs at h with hslash hcontrol
  · subst hslash
    unfold escape at h
    split at h
    next => cases h
    next tail => exact (exists_text_of_unicodeEscape h).imp' ('u' :: ·) (by simp)
    next letter tail _ =>
      split at h
      next d hd =>
        obtain ⟨rfl, rfl⟩ := Prod.mk.inj (Except.ok.inj h)
        exact ⟨[letter], .short hd, rfl⟩
      next => cases h
  · obtain ⟨rfl, rfl⟩ := Prod.mk.inj (Except.ok.inj h)
    exact ⟨[], .plain hquote hslash (by omega), rfl⟩

theorem isLowSurrogate_of_isHighSurrogate {n : Nat} (h : isHighSurrogate n = true) :
    isLowSurrogate n = false := by
  simp only [isHighSurrogate, isLowSurrogate, Bool.and_eq_true, decide_eq_true_eq,
    Bool.and_eq_false_iff, decide_eq_false_iff_not] at h ⊢
  omega

/-- A character of a string is read whatever follows it. -/
theorem CharText.exists_cons {used : List Char} {c : Char} (h : CharText used c) :
    ∃ x tail, used = x :: tail ∧ x ≠ '"' ∧
      ∀ rest, stringChar x (tail ++ rest) = .ok (c, rest) := by
  cases h with
  | plain hquote hslash hcontrol =>
    refine ⟨c, [], rfl, hquote, fun rest => ?_⟩
    rw [stringChar, if_neg hslash, if_neg (by omega), List.nil_append]
  | @short letter _ h =>
    refine ⟨'\\', [letter], rfl, by decide, fun rest => ?_⟩
    have hletter : letter ≠ 'u' := by
      rintro rfl
      cases h
    rw [stringChar, if_pos rfl, List.singleton_append, escape, h]
    exact hletter
  | @code ds n hds hhigh hlow =>
    refine ⟨'\\', 'u' :: ds, rfl, by decide, fun rest => ?_⟩
    have hread : unit (ds ++ rest) = .ok (n, rest) := unit_eq_ok_iff.2 ⟨ds, hds, rfl⟩
    simp [stringChar, escape, unicodeEscape, hread, hhigh, hlow]
  | @surrogates ds es high low hds hes hhigh hlow =>
    refine ⟨'\\', 'u' :: (ds ++ '\\' :: 'u' :: es), rfl, by decide, fun rest => ?_⟩
    have hread : unit (ds ++ '\\' :: 'u' :: (es ++ rest)) =
        .ok (high, '\\' :: 'u' :: (es ++ rest)) := unit_eq_ok_iff.2 ⟨ds, hds, rfl⟩
    have hread' : unit (es ++ rest) = .ok (low, rest) := unit_eq_ok_iff.2 ⟨es, hes, rfl⟩
    simp [stringChar, escape, unicodeEscape, hread, hread', hhigh, hlow, isLowSurrogate_of_isHighSurrogate hhigh]

theorem exists_text_of_stringUpTo {n : Nat} {cs ds rest : List Char}
    (h : stringUpTo n cs = .ok (ds, rest)) : ∃ used, StringText used ds ∧ cs = used ++ rest := by
  induction n generalizing cs ds with
  | zero => cases cs <;> cases h
  | succ n ih =>
    cases cs with
    | nil => cases h
    | cons c tail =>
      rw [stringUpTo] at h
      split_ifs at h with hquote
      · obtain ⟨rfl, rfl⟩ := Prod.mk.inj (Except.ok.inj h)
        exact ⟨['"'], .close, by rw [hquote]; rfl⟩
      · simp only [bind_eq_ok_iff, Prod.exists, pure_eq_ok_iff, Prod.mk.injEq] at h
        obtain ⟨d, _, hd, ds, _, hds, rfl, rfl⟩ := h
        obtain ⟨used, hused, rfl⟩ := exists_text_of_stringChar hquote hd
        obtain ⟨used', hused', rfl⟩ := ih hds
        exact ⟨_, .char hused hused', by simp⟩

theorem StringText.read {used ds : List Char} (h : StringText used ds) {n : Nat}
    (hn : used.length ≤ n) (rest : List Char) :
    stringUpTo n (used ++ rest) = .ok (ds, rest) := by
  induction h generalizing n with
  | close =>
    cases n with
    | zero => cases hn
    | succ n => rfl
  | char hc _ ih =>
    obtain ⟨x, tail, rfl, hquote, hread⟩ := hc.exists_cons
    cases n with
    | zero => cases hn
    | succ n =>
      rw [List.append_assoc, List.cons_append, stringUpTo, if_neg hquote, hread]
      simp only [List.cons_append, List.length_cons, List.length_append] at hn
      simp only [ok_bind, ih (show _ ≤ n by omega)]
      rfl

theorem stringRest_eq_ok_iff {limit : Nat} {cs rest : List Char} {s : String} :
    stringRest limit cs = .ok (s, rest) ↔
      ∃ ds, stringUpTo limit cs = .ok (ds, rest) ∧ String.ofList ds = s := by
  simp only [stringRest, bind_eq_ok_iff, Prod.exists, pure_eq_ok_iff, Prod.mk.injEq]
  constructor
  · rintro ⟨ds, _, h, rfl, rfl⟩
    exact ⟨ds, h, rfl⟩
  · rintro ⟨ds, h, rfl⟩
    exact ⟨ds, rest, h, rfl, rfl⟩

theorem StringText.getLast {used ds : List Char} (h : StringText used ds) :
    used.getLast? = some '"' := by
  induction h with
  | close => rfl
  | char _ _ ih => rw [List.getLast?_append, ih, Option.some_or]

/-! Written strings. -/

theorem unitText_control {n : Nat} (hn : n < 0x20) :
    UnitText ['0', '0', Nat.digitChar (n / 16), Nat.digitChar (n % 16)] n := by
  refine ⟨rfl, ?_⟩
  revert n
  decide

theorem charText_writeChar (c : Char) : CharText (writeChar c) c := by
  unfold writeChar
  split_ifs with hquote hslash hback hfeed hline hreturn htab hcontrol
  iterate 7 subst c; exact .short rfl
  · have h := CharText.code (unitText_control hcontrol)
      (by simp [isHighSurrogate]; omega) (by simp [isLowSurrogate]; omega)
    rwa [Char.ofNat_toNat] at h
  · exact .plain hquote hslash (by omega)

theorem stringText_writeChars (cs : List Char) :
    StringText (cs.flatMap writeChar ++ ['"']) cs := by
  induction cs with
  | nil => exact .close
  | cons c rest ih =>
    rw [List.flatMap_cons, List.append_assoc]
    exact .char (charText_writeChar c) ih

theorem writeChar_no_control (c : Char) : ∀ x ∈ writeChar c, 0x20 ≤ x.toNat := by
  have hdigits : ∀ n < 0x20, 0x20 ≤ (Nat.digitChar (n / 16)).toNat ∧
      0x20 ≤ (Nat.digitChar (n % 16)).toNat := by decide
  unfold writeChar
  split_ifs with hquote hslash hback hfeed hline hreturn htab hcontrol
  iterate 7 simp
  · simpa using hdigits c.toNat hcontrol
  · simpa using hcontrol

theorem writeString_no_control (s : String) : ∀ x ∈ writeString s, 0x20 ≤ x.toNat := by
  simp only [writeString, List.cons_append, List.mem_cons, List.mem_append, List.mem_flatMap,
    List.not_mem_nil, or_false]
  rintro x (rfl | ⟨c, _, hx⟩ | rfl)
  · decide
  · exact writeChar_no_control c x hx
  · decide

end ChangeSieve.Json.Reader
