import ChangeSieve.Base64
import ChangeSieve.Proofs.Outcome
import Mathlib.Data.List.Basic

/-!
Base64 texts are canonical. A byte string is cut into values of six bits, which are written as
symbols; reading accepts the written text of a byte string and no other text of it.
-/
namespace ChangeSieve.Base64
open Outcome

def symbolByte (n : Nat) : UInt8 := UInt8.ofNat (symbol n).toNat

theorem symbol_facts : ∀ n < 64, symbolValue? (symbolByte n) = some n ∧ symbolByte n ≠ pad ∧
    String.utf8EncodeChar (symbol n) = [symbolByte n] := by
  decide +kernel

theorem symbolValue?_facts : ∀ b < 256, (symbolValue? (UInt8.ofNat b)).all
    (fun n => n < 64 && symbolByte n == UInt8.ofNat b) = true := by
  decide +kernel

theorem symbolValue?_eq_some_iff {byte : UInt8} {n : Nat} :
    symbolValue? byte = some n ↔ n < 64 ∧ symbolByte n = byte := by
  constructor
  · intro h
    have hfacts := symbolValue?_facts byte.toNat byte.toNat_lt
    rw [UInt8.ofNat_toNat, h] at hfacts
    simpa using hfacts
  · intro h
    obtain ⟨hn, rfl⟩ := h
    exact (symbol_facts n hn).1

theorem symbolValues_eq_ok_iff {offset : Nat} {text : List UInt8} {ns : List Nat} :
    symbolValues offset text = .ok ns ↔ (∀ n ∈ ns, n < 64) ∧ ns.map symbolByte = text := by
  induction text generalizing offset ns with
  | nil => cases ns <;> simp [symbolValues]
  | cons byte rest ih =>
    rw [symbolValues]
    cases hvalue : symbolValue? byte with
    | none =>
      simp only [reduceCtorEq, false_iff]
      intro h
      obtain ⟨hlt, hmap⟩ := h
      obtain ⟨n, tail, rfl, rfl, _⟩ := List.map_eq_cons_iff.1 hmap
      rw [symbolValue?_eq_some_iff.2 ⟨hlt n List.mem_cons_self, rfl⟩] at hvalue
      exact absurd hvalue (by simp)
    | some n =>
      obtain ⟨hn, rfl⟩ := symbolValue?_eq_some_iff.1 hvalue
      simp only [bind_eq_ok_iff, pure_eq_ok_iff, ih]
      constructor
      · intro h
        obtain ⟨tail, ⟨hlt, rfl⟩, rfl⟩ := h
        exact ⟨List.forall_mem_cons.2 ⟨hn, hlt⟩, rfl⟩
      · intro h
        obtain ⟨hlt, hmap⟩ := h
        obtain ⟨m, tail, rfl, hm, rfl⟩ := List.map_eq_cons_iff.1 hmap
        obtain ⟨hmlt, htail⟩ := List.forall_mem_cons.1 hlt
        have hmn := symbolValue?_eq_some_iff.2 ⟨hmlt, hm⟩
        rw [hvalue, Option.some.injEq] at hmn
        exact ⟨tail, ⟨htail, rfl⟩, by rw [hmn]⟩

/-- The bits past the last whole byte are zero, and no value stands alone in its group of four. -/
def Aligned : List Nat → Prop
  | _ :: _ :: _ :: _ :: rest => Aligned rest
  | [_, _, c] => c % 4 = 0
  | [_, b] => b % 16 = 0
  | [_] => False
  | [] => True

theorem aligned_append : ∀ {front last : List Nat}, front.length % 4 = 0 →
    (Aligned (front ++ last) ↔ Aligned last)
  | [], _, _ => Iff.rfl
  | _ :: _ :: _ :: _ :: rest, last, h => by
    have hrest : rest.length % 4 = 0 := by
      simp only [List.length_cons] at h
      omega
    simpa only [List.cons_append, Aligned] using aligned_append hrest
  | [_], _, h | [_, _], _, h | [_, _, _], _, h => by simp at h

/-- Values as symbols, filled up with padding to whole groups of four. -/
def spell (ns : List Nat) : List UInt8 :=
  ns.map symbolByte ++ List.replicate ((4 - ns.length % 4) % 4) pad

theorem takeWhile_symbols {ns : List Nat} (hns : ∀ n ∈ ns, n < 64) (k : Nat) :
    (ns.map symbolByte ++ List.replicate k pad).takeWhile (· != pad) = ns.map symbolByte := by
  rw [List.takeWhile_append_of_pos]
  · cases k <;> simp [List.replicate_succ]
  · intro byte hbyte
    obtain ⟨n, hn, rfl⟩ := List.mem_map.1 hbyte
    simpa using (symbol_facts n (hns n hn)).2.1

theorem dropWhile_symbols {ns : List Nat} (hns : ∀ n ∈ ns, n < 64) (k : Nat) :
    (ns.map symbolByte ++ List.replicate k pad).dropWhile (· != pad) = List.replicate k pad := by
  rw [List.dropWhile_append_of_pos]
  · cases k <;> simp [List.replicate_succ]
  · intro byte hbyte
    obtain ⟨n, hn, rfl⟩ := List.mem_map.1 hbyte
    simpa using (symbol_facts n (hns n hn)).2.1

/-- A last group has two to four symbols, is filled up with padding, and has no spare bits set. -/
theorem lastGroup_eq_ok_iff {start : Nat} {group : List UInt8} {ns : List Nat} :
    lastGroup start group = .ok ns ↔ (∀ n ∈ ns, n < 64) ∧ 2 ≤ ns.length ∧ spareBits ns = 0 ∧
      ∃ k, ns.length + k = 4 ∧ group = ns.map symbolByte ++ List.replicate k pad := by
  constructor
  · intro h
    simp only [lastGroup, bind_eq_ok_iff, symbolValues_eq_ok_iff] at h
    obtain ⟨ms, ⟨hlt, hsymbols⟩, h⟩ := h
    split_ifs at h with hpad hshort hfull hspare
    obtain rfl := Except.ok.inj h
    rw [← hsymbols, List.length_map] at hshort hfull
    have hpadding : group.dropWhile (· != pad) =
        List.replicate (group.dropWhile (· != pad)).length pad := by
      refine List.eq_replicate_iff.2 ⟨rfl, fun byte hbyte => ?_⟩
      have hne := List.ne_nil_of_mem hbyte
      simp only [hne, ne_eq, not_false_eq_true, true_and, not_or, List.any_eq_true, bne_iff_ne,
        not_exists, not_and, not_not] at hpad
      exact hpad.2 byte hbyte
    refine ⟨hlt, by omega, by omega, (group.dropWhile (· != pad)).length, by omega, ?_⟩
    rw [hsymbols, ← hpadding, List.takeWhile_append_dropWhile]
  · intro h
    obtain ⟨hlt, hlength, hspare, k, hk, rfl⟩ := h
    have hvalues : symbolValues start (ns.map symbolByte) = .ok ns :=
      symbolValues_eq_ok_iff.2 ⟨hlt, rfl⟩
    have hshort : ¬ ns.length < 2 := by omega
    simp only [lastGroup, takeWhile_symbols hlt, dropWhile_symbols hlt, List.length_map,
      List.length_replicate, bind_eq_ok_iff]
    refine ⟨ns, hvalues, ?_⟩
    simp [hshort, hk, hspare]

theorem spareBits_eq_zero {ns : List Nat} (h : Aligned ns) (hlength : ns.length ≤ 4) :
    spareBits ns = 0 := by
  match ns, h with
  | [], _ => rfl
  | [_, _], h => exact h
  | [_, _, _], h => exact h
  | [_, _, _, _], _ => rfl
  | _ :: _ :: _ :: _ :: _ :: _, _ =>
    simp only [List.length_cons] at hlength
    omega

theorem aligned_of_spareBits {ns : List Nat} (hshort : 2 ≤ ns.length) (hlength : ns.length ≤ 4)
    (h : spareBits ns = 0) : Aligned ns := by
  match ns with
  | [_, _] => exact h
  | [_, _, _] => exact h
  | [_, _, _, _] => trivial
  | [] | [_] =>
    simp only [List.length_cons, List.length_nil] at hshort
    omega
  | _ :: _ :: _ :: _ :: _ :: _ =>
    simp only [List.length_cons] at hlength
    omega

theorem Aligned.length_mod {ns : List Nat} (h : Aligned ns) : ns.length % 4 ≠ 1 := by
  fun_induction Aligned ns with
  | case1 _ _ _ _ rest ih =>
    have hrest := ih h
    simp only [List.length_cons]
    omega
  | case4 => exact absurd h id
  | _ => simp

/-- Whole groups are followed by a last group, in which alone there may be padding. -/
theorem decodeBytes_groups {front last : List Nat} {k : Nat} (hfront : ∀ n ∈ front, n < 64)
    (hlast : ∀ n ∈ last, n < 64) (hwhole : front.length % 4 = 0) (hshort : 2 ≤ last.length)
    (hspare : spareBits last = 0) (hk : last.length + k = 4) :
    decodeBytes (front.map symbolByte ++ (last.map symbolByte ++ List.replicate k pad)) =
      .ok (bytes (front ++ last)) := by
  generalize hgroup : last.map symbolByte ++ List.replicate k pad = group
  have hlength : group.length = 4 := by simp [← hgroup, hk]
  have hne : front.map symbolByte ++ group ≠ [] := by
    rw [← List.length_pos_iff, List.length_append]
    omega
  have hstray : strayByte? (front.map symbolByte ++ group) = none := by
    rw [strayByte?, if_neg]
    rw [List.length_append, List.length_map]
    omega
  have hstart : ((front.map symbolByte ++ group).length - 1) / 4 * 4 =
      (front.map symbolByte).length := by
    rw [List.length_append, List.length_map]
    omega
  have hvalues : symbolValues 0 (front.map symbolByte) = .ok front :=
    symbolValues_eq_ok_iff.2 ⟨hfront, rfl⟩
  have hgroupValues : lastGroup (front.map symbolByte).length group = .ok last :=
    lastGroup_eq_ok_iff.2 ⟨hlast, hshort, hspare, k, hk, hgroup.symm⟩
  rw [decodeBytes, if_neg hne, hstray]
  simp only [hstart, List.take_left', List.drop_left', hvalues, hgroupValues]
  rfl

/-- A text is read when it is the spelling of aligned values. -/
theorem decodeBytes_eq_ok_iff {text data : List UInt8} :
    decodeBytes text = .ok data ↔
      ∃ ns, (∀ n ∈ ns, n < 64) ∧ Aligned ns ∧ text = spell ns ∧ data = bytes ns := by
  constructor
  · intro h
    rw [decodeBytes] at h
    split_ifs at h with hempty
    · obtain rfl := Except.ok.inj h
      exact ⟨[], by simp, trivial, hempty, rfl⟩
    split at h
    · simp at h
    simp only [bind_eq_ok_iff, pure_eq_ok_iff, symbolValues_eq_ok_iff, lastGroup_eq_ok_iff] at h
    obtain ⟨front, ⟨hfront, htake⟩, last, ⟨hlast, hshort, hspare, k, hk, hdrop⟩, rfl⟩ := h
    have hpos := List.length_pos_iff.2 hempty
    have hlength : front.length = (text.length - 1) / 4 * 4 := by
      have htakeLength := congrArg List.length htake
      rw [List.length_map, List.length_take] at htakeLength
      omega
    refine ⟨front ++ last, List.forall_mem_append.2 ⟨hfront, hlast⟩, ?_, ?_, rfl⟩
    · rw [aligned_append (by omega)]
      exact aligned_of_spareBits hshort (by omega) hspare
    · have hpadding : (4 - (front ++ last).length % 4) % 4 = k := by
        rw [List.length_append]
        omega
      rw [spell, hpadding, List.map_append, htake, List.append_assoc, ← hdrop,
        List.take_append_drop]
  · intro h
    obtain ⟨ns, hlt, haligned, rfl, rfl⟩ := h
    by_cases hempty : ns = []
    · subst hempty
      rfl
    have hpos := List.length_pos_iff.2 hempty
    have hmod := haligned.length_mod
    obtain ⟨front, last, rfl, hwhole, hshort, hlong⟩ : ∃ front last, ns = front ++ last ∧
        front.length % 4 = 0 ∧ 2 ≤ last.length ∧ last.length ≤ 4 := by
      refine ⟨ns.take ((ns.length - 1) / 4 * 4), ns.drop ((ns.length - 1) / 4 * 4),
        (List.take_append_drop _ _).symm, ?_, ?_, ?_⟩
      · rw [List.length_take]
        omega
      · rw [List.length_drop]
        omega
      · rw [List.length_drop]
        omega
    obtain ⟨hfront, hlast⟩ := List.forall_mem_append.1 hlt
    have hspare := spareBits_eq_zero ((aligned_append hwhole).1 haligned) hlong
    have hpadding : last.length + (4 - (front ++ last).length % 4) % 4 = 4 := by
      rw [List.length_append]
      omega
    rw [spell, List.map_append, List.append_assoc]
    exact decodeBytes_groups hfront hlast hwhole hshort hspare hpadding

/-- The six-bit values that a byte string is cut into, four for three bytes. -/
def sextets : List UInt8 → List Nat
  | a :: b :: c :: rest =>
    a.toNat / 4 :: (a.toNat % 4 * 16 + b.toNat / 16) :: (b.toNat % 16 * 4 + c.toNat / 64) ::
      c.toNat % 64 :: sextets rest
  | [a, b] => [a.toNat / 4, a.toNat % 4 * 16 + b.toNat / 16, b.toNat % 16 * 4]
  | [a] => [a.toNat / 4, a.toNat % 4 * 16]
  | [] => []

theorem sextets_lt (data : List UInt8) : ∀ n ∈ sextets data, n < 64 := by
  fun_induction sextets data with
  | case1 a b c rest ih =>
    have ha := a.toNat_lt
    have hb := b.toNat_lt
    have hc := c.toNat_lt
    simp only [List.forall_mem_cons]
    exact ⟨by omega, by omega, by omega, by omega, ih⟩
  | case2 a b =>
    have ha := a.toNat_lt
    have hb := b.toNat_lt
    simp only [List.forall_mem_cons]
    exact ⟨by omega, by omega, by omega, by simp⟩
  | case3 a =>
    have ha := a.toNat_lt
    simp only [List.forall_mem_cons]
    exact ⟨by omega, by omega, by simp⟩
  | case4 => simp

theorem sextets_aligned (data : List UInt8) : Aligned (sextets data) := by
  fun_induction sextets data with
  | case1 a b c rest ih => exact ih
  | case2 a b => exact Nat.mul_mod_left _ 4
  | case3 a => exact Nat.mul_mod_left _ 16
  | case4 => trivial

theorem ofNat_eq_of_toNat (byte : UInt8) {n : Nat} (h : n = byte.toNat) :
    UInt8.ofNat n = byte := by
  rw [h, UInt8.ofNat_toNat]

theorem bytes_sextets (data : List UInt8) : bytes (sextets data) = data := by
  fun_induction sextets data with
  | case1 a b c rest ih =>
    have hb := b.toNat_lt
    have hc := c.toNat_lt
    rw [bytes, ih, ofNat_eq_of_toNat a (by omega), ofNat_eq_of_toNat b (by omega),
      ofNat_eq_of_toNat c (by omega)]
  | case2 a b =>
    have hb := b.toNat_lt
    rw [bytes, ofNat_eq_of_toNat a (by omega), ofNat_eq_of_toNat b (by omega)]
  | case3 a => rw [bytes, ofNat_eq_of_toNat a (by omega)]
  | case4 => rfl

theorem sextets_bytes {ns : List Nat} (hlt : ∀ n ∈ ns, n < 64) (h : Aligned ns) :
    sextets (bytes ns) = ns := by
  fun_induction bytes ns with
  | case1 a b c d rest ih =>
    simp only [List.forall_mem_cons] at hlt
    obtain ⟨ha, hb, hc, hd, hrest⟩ := hlt
    simp only [sextets, ih hrest h, UInt8.toNat_ofNat', List.cons.injEq, and_true]
    omega
  | case2 a b c =>
    simp only [List.forall_mem_cons] at hlt
    obtain ⟨ha, hb, hc, -⟩ := hlt
    have hspare : c % 4 = 0 := h
    simp only [sextets, UInt8.toNat_ofNat', List.cons.injEq, and_true]
    omega
  | case3 a b =>
    simp only [List.forall_mem_cons] at hlt
    obtain ⟨ha, hb, -⟩ := hlt
    have hspare : b % 16 = 0 := h
    simp only [sextets, UInt8.toNat_ofNat', List.cons.injEq, and_true]
    omega
  | case4 ns hfour hthree htwo =>
    match ns, h with
    | [], _ => rfl
    | [a, b], _ => exact absurd rfl (htwo a b)
    | [a, b, c], _ => exact absurd rfl (hthree a b c)
    | a :: b :: c :: d :: rest, _ => exact absurd rfl (hfour a b c d rest)

theorem encodeChars_eq (data : List UInt8) :
    encodeChars data = (sextets data).map symbol ++
      List.replicate ((4 - (sextets data).length % 4) % 4) '=' := by
  fun_induction sextets data with
  | case1 a b c rest ih =>
    have hmod : ((sextets rest).length + 1 + 1 + 1 + 1) % 4 = (sextets rest).length % 4 := by
      omega
    simp only [encodeChars, ih, List.map_cons, List.length_cons, hmod, List.cons_append]
  | case2 a b => rfl
  | case3 a => rfl
  | case4 => rfl

/-- The bytes of a written text. -/
theorem utf8_encode (data : List UInt8) :
    (encode data).toList.flatMap String.utf8EncodeChar = spell (sextets data) := by
  have hsymbols : (sextets data).flatMap (fun n => String.utf8EncodeChar (symbol n)) =
      (sextets data).map symbolByte := by
    rw [List.map_eq_flatMap]
    exact List.flatMap_congr fun n hn => (symbol_facts n (sextets_lt data n hn)).2.2
  have hpad : String.utf8EncodeChar '=' = [pad] := by decide
  rw [encode, String.toList_ofList, encodeChars_eq, List.flatMap_append, List.flatMap_map,
    hsymbols, List.flatMap_replicate, hpad, List.flatten_replicate_singleton, spell]

theorem eq_of_utf8_eq {s t : String}
    (h : s.toList.flatMap String.utf8EncodeChar = t.toList.flatMap String.utf8EncodeChar) :
    s = t := by
  rw [← String.toByteArray_inj, ← String.utf8Encode_toList, ← String.utf8Encode_toList,
    List.utf8Encode, List.utf8Encode, h]

/-- A text is read as a byte string when it is the written text of this byte string. -/
theorem decode_eq_ok_iff {text : String} {data : List UInt8} :
    decode text = .ok data ↔ text = encode data := by
  rw [decode, decodeBytes_eq_ok_iff]
  constructor
  · intro h
    obtain ⟨ns, hlt, haligned, htext, rfl⟩ := h
    rw [← sextets_bytes hlt haligned, ← utf8_encode] at htext
    exact eq_of_utf8_eq htext
  · intro h
    subst h
    exact ⟨sextets data, sextets_lt data, sextets_aligned data, utf8_encode data,
      (bytes_sextets data).symm⟩

end ChangeSieve.Base64
