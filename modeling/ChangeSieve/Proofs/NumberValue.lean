import ChangeSieve.Attribute.Basic
import ChangeSieve.Proofs.NumberText
import ChangeSieve.Proofs.TextParts

/-!
Numbers as float texts. What JSON reads as a number, a float text reads as the same double, so a
number attribute may be given in either form.
-/
namespace ChangeSieve

namespace Json.Reader
open Decimal Outcome

theorem ExponentSpelling.head_end {es : List Char} {exponent : Option Int}
    (h : ExponentSpelling es exponent) : ∀ c ∈ es.head?, c.isDigit = false ∧ c ≠ '.' := by
  have hhead := h.head (show EndsNumber [] by simp [EndsNumber])
  rwa [List.append_nil] at hhead

theorem FractionSpelling.split {fs es : List Char} {fraction : Option (List Char)}
    {exponent : Option Int} (hfraction : FractionSpelling fs fraction)
    (hexponent : ExponentSpelling es exponent) :
    splitFraction (fs ++ es) = (fraction.getD [], es) := by
  have hhead := hexponent.head_end
  cases hfraction with
  | absent =>
    cases es with
    | nil => rfl
    | cons c rest => simp [splitFraction, (hhead c rfl).2]
  | digits hne hds => exact splitDigits_append hds fun c hc => (hhead c hc).1

theorem ExponentSpelling.exponent? {es : List Char} {exponent : Option Int}
    (h : ExponentSpelling es exponent) : Decimal.exponent? es = some (exponent.getD 0) := by
  cases h with
  | absent => rfl
  | @power mark sign ds hmark hsign hne hds =>
    simp only [Decimal.exponent?, splitSign_append hsign hds.head_not_sign]
    rw [if_pos ⟨hmark, hne, List.all_eq_true.2 hds⟩]
    simp [signedExponent]

theorem toLower_of_isDigit {c : Char} (h : c.isDigit = true) : c.toLower = c := by
  simp only [Char.isDigit, ge_iff_le, Bool.and_eq_true, decide_eq_true_eq,
    UInt32.le_iff_toNat_le] at h
  have hhigh : c.val.toNat ≤ 57 := h.2
  have hcapital : ¬('A'.val ≤ c.val ∧ c.val ≤ 'Z'.val) := by
    simp only [UInt32.le_iff_toNat_le, not_and]
    intro hlow
    have : 65 ≤ c.val.toNat := hlow
    omega
  exact dif_neg hcapital

/-- A digit in front rules the words of float texts out. -/
theorem not_isWord_of_isDigit {c : Char} (hc : c.isDigit = true) (rest : List Char) :
    ¬Double.IsWord (c :: rest) := by
  rw [Double.isWord_iff, List.map_cons, toLower_of_isDigit hc]
  rintro (h | h | h) <;>
    (rw [(List.cons.inj h).1] at hc; exact absurd hc (by decide))

theorem NumberParts.Spelling.ofText {cs : List Char} {parts : NumberParts}
    (h : parts.Spelling cs) : Double.ofText? cs = some parts.decimal.toDouble := by
  cases h with
  | @parts negative whole fs es fraction exponent hwhole hfraction hexponent =>
    have hsign : splitSign (minusSign negative ++ (whole ++ (fs ++ es))) =
        (negative, whole ++ (fs ++ es)) := by
      have hhead : ∀ c ∈ (whole ++ (fs ++ es)).head?, c ≠ '+' ∧ c ≠ '-' := by
        rw [List.head?_append_of_ne_nil _ hwhole.ne_nil]
        exact hwhole.digits.head_not_sign
      cases negative with
      | true => rfl
      | false => exact splitSign_append (.inl rfl) hhead
    have hdigits : splitDigits (whole ++ (fs ++ es)) = (whole, fs ++ es) :=
      splitDigits_append hwhole.digits (hfraction.head fun c hc => (hexponent.head_end c hc).1)
    have hne : whole ++ fraction.getD [] ≠ [] := by simp [hwhole.ne_nil]
    have hword : ¬Double.IsWord (whole ++ (fs ++ es)) := by
      obtain ⟨c, tail, rfl, hc⟩ := hwhole.exists_cons
      exact not_isWord_of_isDigit hc _
    rw [Double.isWord_iff, not_or] at hword
    simp only [Double.ofText?, hsign, if_neg hword.1, if_neg hword.2, ofUnsigned?, hdigits,
      hfraction.split hexponent, if_neg hne, hexponent.exponent?, Option.map_some,
      NumberParts.decimal]

theorem toDouble_ofParts_whole {negative : Bool} {whole : List Char}
    (h : ¬(negative = true ∧ Nat.ofDigitChars 10 whole 0 = 0)) :
    (ofParts negative whole [] 0).toDouble = Double.ofInt
      (if negative then -(Nat.ofDigitChars 10 whole 0 : Int) else Nat.ofDigitChars 10 whole 0) := by
  rw [toDouble_eq_ofQuotient, ofParts, List.append_nil, Double.ofInt]
  generalize Nat.ofDigitChars 10 whole 0 = n at h ⊢
  cases negative with
  | true =>
    have hn : n ≠ 0 := fun hn => h ⟨rfl, hn⟩
    have hsign : decide (-(n : Int) < 0) = true := decide_eq_true (by omega)
    simp only [if_true, hsign]
    simp
  | false =>
    have hsign : decide ((n : Int) < 0) = false := decide_eq_false (by omega)
    simp only [Bool.false_eq_true, if_false, hsign]
    simp

/-- A number of JSON that is read as the nearest double is the same number as a float text. -/
theorem NumberSpelling.ofText {cs : List Char} {n : Number} (h : @NumberSpelling .nearest cs n) :
    Double.ofText? cs = some n.toDouble := by
  obtain ⟨parts, hparts, hvalue⟩ := h
  rw [hparts.ofText, Option.some.injEq]
  unfold NumberParts.value at hvalue
  by_cases hinteger : FitsWord (if parts.negative then -(Nat.ofDigitChars 10 parts.whole 0 : Int)
      else Nat.ofDigitChars 10 parts.whole 0) ∧ parts.fraction = none ∧ parts.exponent = none ∧
      ¬(parts.negative = true ∧ (Nat.ofDigitChars 10 parts.whole 0 : Int) = 0)
  · rw [dif_pos hinteger] at hvalue
    have hdouble : (ofParts parts.negative parts.whole [] 0).toDouble = _ :=
      toDouble_ofParts_whole (by exact_mod_cast hinteger.2.2.2)
    rw [← Except.ok.inj hvalue, Number.toDouble, ← hdouble, NumberParts.decimal]
    simp only [hinteger.2.1, hinteger.2.2.1, Option.getD_none]
  · rw [dif_neg hinteger] at hvalue
    split at hvalue
    next f hf =>
      obtain rfl := Except.ok.inj hvalue
      exact hf
    next => cases hvalue

end Json.Reader

/-- The text of a number means this number. -/
@[simp] theorem Attribute.numberOfText?_text (n : Number) : numberOfText? n.text = some n.toDouble := by
  have hspelling := @Json.Reader.NumberSpelling.chars .nearest Json.Reader.nearest_readsBack n
  have hblank := fun c hc =>
    Json.Reader.isBlank_of_isNumberChar (Json.Reader.numberChars_chars n c hc)
  rw [numberOfText?, Number.text, String.toList_ofList, Text.trim_of_not_blank hblank,
    hspelling.ofText]

end ChangeSieve
