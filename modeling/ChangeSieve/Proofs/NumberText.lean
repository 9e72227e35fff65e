import ChangeSieve.Json.Reader
import ChangeSieve.Proofs.FloatText
import ChangeSieve.Proofs.Outcome
import ChangeSieve.Proofs.Rounding
import ChangeSieve.Text.Blank

/-!
The grammar of JSON numbers. The reader takes exactly its texts, up to the first character that
cannot go on with a number; every number text is one of them and is read as its number.
-/
namespace ChangeSieve.Json.Reader
open Decimal Outcome

/-! The grammar. -/

/-- Holds of a text that does not go on with a number. -/
def EndsNumber (rest : List Char) : Prop :=
  ∀ c ∈ rest.head?, c.isDigit = false ∧ c ≠ '.' ∧ c ≠ 'e' ∧ c ≠ 'E'

/-- At least one digit, and no leading zero but the number zero. -/
structure IsWhole (ds : List Char) : Prop where
  ne_nil : ds ≠ []
  digits : AllDigits ds
  zero : ds.head? = some '0' → ds = ['0']

inductive FractionSpelling : List Char → Option (List Char) → Prop where
  | absent : FractionSpelling [] none
  | digits {ds : List Char} (hne : ds ≠ []) (hds : AllDigits ds) :
      FractionSpelling ('.' :: ds) (some ds)

def signedExponent (sign ds : List Char) : Int :=
  if sign = ['-'] then -(Nat.ofDigitChars 10 ds 0 : Int) else Nat.ofDigitChars 10 ds 0

inductive ExponentSpelling : List Char → Option Int → Prop where
  | absent : ExponentSpelling [] none
  | power {mark : Char} {sign ds : List Char} (hmark : mark = 'e' ∨ mark = 'E')
      (hsign : IsSign sign) (hne : ds ≠ []) (hds : AllDigits ds) :
      ExponentSpelling (mark :: (sign ++ ds)) (some (signedExponent sign ds))

def minusSign (negative : Bool) : List Char := if negative then ['-'] else []

inductive NumberParts.Spelling : List Char → NumberParts → Prop where
  | parts (negative : Bool) {whole fs es : List Char} {fraction : Option (List Char)}
      {exponent : Option Int} (hwhole : IsWhole whole) (hfraction : FractionSpelling fs fraction)
      (hexponent : ExponentSpelling es exponent) :
      Spelling (minusSign negative ++ (whole ++ (fs ++ es))) ⟨negative, whole, fraction, exponent⟩

/-! The reader. -/

theorem digits_eq_ok_iff {cs ds rest : List Char} :
    digits cs = .ok (ds, rest) ↔
      ds ≠ [] ∧ AllDigits ds ∧ cs = ds ++ rest ∧ ∀ c ∈ rest.head?, c.isDigit = false := by
  constructor
  · intro h
    have hsplit := splitDigits_spec cs
    have hstop : ∀ c ∈ (splitDigits cs).2.head?, c.isDigit = false := by
      intro c hc
      have hnot := List.head?_dropWhile_not Char.isDigit cs
      simp only [splitDigits] at hc
      rw [hc] at hnot
      simpa using hnot
    simp only [digits] at h
    split_ifs at h with hne
    obtain ⟨rfl, rfl⟩ := Prod.mk.inj (Except.ok.inj h)
    exact ⟨hne, hsplit.1, hsplit.2.symm, hstop⟩
  · intro h
    obtain ⟨hne, hds, rfl, hstop⟩ := h
    simp only [digits, splitDigits_append hds hstop, if_neg hne]

theorem wholePart_eq_ok_iff {cs ds rest : List Char} :
    wholePart cs = .ok (ds, rest) ↔
      IsWhole ds ∧ cs = ds ++ rest ∧ ∀ c ∈ rest.head?, c.isDigit = false := by
  simp only [wholePart, bind_eq_ok_iff, Prod.exists, digits_eq_ok_iff]
  constructor
  · intro h
    obtain ⟨ds', rest', ⟨hne, hds, rfl, hstop⟩, h⟩ := h
    split_ifs at h with hzero
    obtain ⟨rfl, rfl⟩ := Prod.mk.inj (Except.ok.inj h)
    exact ⟨⟨hne, hds, fun hhead => by_contra fun h => hzero ⟨hhead, h⟩⟩, rfl, hstop⟩
  · intro h
    obtain ⟨hwhole, rfl, hstop⟩ := h
    refine ⟨ds, rest, ⟨hwhole.ne_nil, hwhole.digits, rfl, hstop⟩, ?_⟩
    rw [if_neg fun hzero => hzero.2 (hwhole.zero hzero.1)]

theorem exists_fraction {cs rest : List Char} {fraction : Option (List Char)}
    (h : fractionPart cs = .ok (fraction, rest)) :
    ∃ fs, FractionSpelling fs fraction ∧ cs = fs ++ rest := by
  unfold fractionPart at h
  split at h
  next tail =>
    simp only [bind_eq_ok_iff, Prod.exists, digits_eq_ok_iff, pure_eq_ok_iff, Prod.mk.injEq] at h
    obtain ⟨ds, rest, ⟨hne, hds, rfl, _⟩, rfl, rfl⟩ := h
    exact ⟨'.' :: ds, .digits hne hds, rfl⟩
  next =>
    obtain ⟨rfl, rfl⟩ := Prod.mk.inj (Except.ok.inj h)
    exact ⟨[], .absent, rfl⟩

theorem FractionSpelling.read {fs rest : List Char} {fraction : Option (List Char)}
    (h : FractionSpelling fs fraction) (hrest : ∀ c ∈ rest.head?, c.isDigit = false ∧ c ≠ '.') :
    fractionPart (fs ++ rest) = .ok (fraction, rest) := by
  cases h with
  | absent =>
    cases rest with
    | nil => rfl
    | cons c tail =>
      have hpoint : c ≠ '.' := (hrest c rfl).2
      simp [fractionPart, hpoint]
  | @digits ds hne hds =>
    have hdigits : Reader.digits (ds ++ rest) = .ok (ds, rest) :=
      digits_eq_ok_iff.2 ⟨hne, hds, rfl, fun c hc => (hrest c hc).1⟩
    rw [List.cons_append, fractionPart, hdigits]
    rfl

theorem exists_exponent {cs rest : List Char} {exponent : Option Int}
    (h : exponentPart cs = .ok (exponent, rest)) :
    ∃ es, ExponentSpelling es exponent ∧ cs = es ++ rest := by
  unfold exponentPart at h
  split at h
  next c tail =>
    split_ifs at h with hmark
    · obtain ⟨sign, hsign, htail, hminus⟩ := splitSign_spec tail
      simp only [bind_eq_ok_iff, Prod.exists, digits_eq_ok_iff, pure_eq_ok_iff,
        Prod.mk.injEq] at h
      obtain ⟨ds, rest, ⟨hne, hds, hsplit, _⟩, rfl, rfl⟩ := h
      refine ⟨c :: (sign ++ ds), ?_, by rw [← htail, hsplit]; simp⟩
      simp only [hminus, decide_eq_true_eq]
      exact .power hmark hsign hne hds
    · obtain ⟨rfl, rfl⟩ := Prod.mk.inj (Except.ok.inj h)
      exact ⟨[], .absent, rfl⟩
  next =>
    obtain ⟨rfl, rfl⟩ := Prod.mk.inj (Except.ok.inj h)
    exact ⟨[], .absent, rfl⟩

theorem ExponentSpelling.read {es rest : List Char} {exponent : Option Int}
    (h : ExponentSpelling es exponent) (hrest : EndsNumber rest) :
    exponentPart (es ++ rest) = .ok (exponent, rest) := by
  cases h with
  | absent =>
    cases rest with
    | nil => rfl
    | cons c tail =>
      obtain ⟨_, _, hsmall, hcapital⟩ := hrest c rfl
      simp [exponentPart, hsmall, hcapital]
  | @power mark sign ds hmark hsign hne hds =>
    have hdigits : digits (ds ++ rest) = .ok (ds, rest) :=
      digits_eq_ok_iff.2 ⟨hne, hds, rfl, fun c hc => (hrest c hc).1⟩
    have hhead : ∀ c ∈ (ds ++ rest).head?, c ≠ '+' ∧ c ≠ '-' := by
      rw [List.head?_append_of_ne_nil _ hne]
      exact hds.head_not_sign
    rw [List.cons_append, List.append_assoc, exponentPart, if_pos hmark,
      splitSign_append hsign hhead]
    simp only [hdigits, decide_eq_true_eq]
    rfl

/-- An exponent, and what follows a number, start with neither a digit nor a point. -/
theorem ExponentSpelling.head {es rest : List Char} {exponent : Option Int}
    (h : ExponentSpelling es exponent) (hrest : EndsNumber rest) :
    ∀ c ∈ (es ++ rest).head?, c.isDigit = false ∧ c ≠ '.' := by
  cases h with
  | absent => exact fun c hc => ⟨(hrest c hc).1, (hrest c hc).2.1⟩
  | power hmark => rcases hmark with rfl | rfl <;> simp

theorem FractionSpelling.head {fs rest : List Char} {fraction : Option (List Char)}
    (h : FractionSpelling fs fraction) (hrest : ∀ c ∈ rest.head?, c.isDigit = false) :
    ∀ c ∈ (fs ++ rest).head?, c.isDigit = false := by
  cases h with
  | absent => exact hrest
  | digits => simp

theorem IsWhole.exists_cons {ds : List Char} (h : IsWhole ds) :
    ∃ c rest, ds = c :: rest ∧ c.isDigit = true := by
  obtain ⟨c, rest, rfl⟩ := List.exists_cons_of_ne_nil h.ne_nil
  exact ⟨c, rest, rfl, h.digits c List.mem_cons_self⟩

theorem NumberParts.Spelling.read {cs rest : List Char} {parts : NumberParts}
    (h : parts.Spelling cs) (hrest : EndsNumber rest) :
    numberParts (cs ++ rest) = .ok (parts, rest) := by
  cases h with
  | @parts negative whole fs es fraction exponent hwhole hfraction hexponent =>
    have hexponentRead := hexponent.read hrest
    have hfractionRead := hfraction.read (hexponent.head hrest)
    have hwholeRead : wholePart (whole ++ (fs ++ (es ++ rest))) = .ok (whole, fs ++ (es ++ rest)) :=
      wholePart_eq_ok_iff.2
        ⟨hwhole, rfl, hfraction.head fun c hc => (hexponent.head hrest c hc).1⟩
    obtain ⟨c, tail, rfl, hc⟩ := hwhole.exists_cons
    have hminus : c ≠ '-' := by
      rintro rfl
      exact absurd hc (by decide)
    simp only [List.cons_append] at hwholeRead
    cases negative with
    | true =>
      simp only [minusSign, ↓reduceIte, List.cons_append, List.nil_append, List.append_assoc,
        numberParts, hwholeRead, hfractionRead, hexponentRead, ok_bind]
      rfl
    | false =>
      simp only [minusSign, Bool.false_eq_true, ↓reduceIte, List.cons_append, List.nil_append,
        List.append_assoc, numberParts]
      split
      next heq => exact absurd (List.cons.inj heq).1 hminus
      next =>
        simp only [hwholeRead, hfractionRead, hexponentRead, ok_bind]
        rfl

theorem exists_spelling_of_parts (negative : Bool) {cs rest rest' rest'' whole : List Char}
    {fraction : Option (List Char)} {exponent : Option Int}
    (hwhole : wholePart cs = .ok (whole, rest))
    (hfraction : fractionPart rest = .ok (fraction, rest'))
    (hexponent : exponentPart rest' = .ok (exponent, rest'')) :
    ∃ used, NumberParts.Spelling (minusSign negative ++ used) ⟨negative, whole, fraction, exponent⟩ ∧
      cs = used ++ rest'' := by
  obtain ⟨hds, rfl, _⟩ := wholePart_eq_ok_iff.1 hwhole
  obtain ⟨fs, hfs, rfl⟩ := exists_fraction hfraction
  obtain ⟨es, hes, rfl⟩ := exists_exponent hexponent
  exact ⟨_, .parts negative hds hfs hes, by simp⟩

theorem exists_spelling_of_numberParts {cs rest : List Char} {parts : NumberParts}
    (h : numberParts cs = .ok (parts, rest)) : ∃ used, parts.Spelling used ∧ cs = used ++ rest := by
  simp only [numberParts] at h
  split at h
  next body =>
    simp only [bind_eq_ok_iff, Prod.exists, pure_eq_ok_iff, Prod.mk.injEq] at h
    obtain ⟨whole, _, hwhole, fraction, _, hfraction, exponent, _, hexponent, rfl, rfl⟩ := h
    obtain ⟨used, hused, rfl⟩ := exists_spelling_of_parts true hwhole hfraction hexponent
    exact ⟨_, hused, rfl⟩
  next =>
    simp only [bind_eq_ok_iff, Prod.exists, pure_eq_ok_iff, Prod.mk.injEq] at h
    obtain ⟨whole, _, hwhole, fraction, _, hfraction, exponent, _, hexponent, rfl, rfl⟩ := h
    obtain ⟨used, hused, rfl⟩ := exists_spelling_of_parts false hwhole hfraction hexponent
    exact ⟨_, hused, rfl⟩

section Values
variable [FloatReading]

def NumberSpelling (cs : List Char) (n : Number) : Prop :=
  ∃ parts : NumberParts, parts.Spelling cs ∧ parts.value = .ok n

theorem NumberSpelling.read {cs rest : List Char} {n : Number} (h : NumberSpelling cs n)
    (hrest : EndsNumber rest) : number (cs ++ rest) = .ok (n, rest) := by
  obtain ⟨parts, hparts, hvalue⟩ := h
  rw [number, hparts.read hrest]
  simp only [ok_bind, hvalue]
  rfl

theorem exists_spelling_of_number {cs rest : List Char} {n : Number}
    (h : number cs = .ok (n, rest)) : ∃ used, NumberSpelling used n ∧ cs = used ++ rest := by
  simp only [number, bind_eq_ok_iff, Prod.exists, pure_eq_ok_iff, Prod.mk.injEq] at h
  obtain ⟨parts, _, hparts, n, hvalue, rfl, rfl⟩ := h
  obtain ⟨used, hused, hcs⟩ := exists_spelling_of_numberParts hparts
  exact ⟨used, ⟨parts, hused, hvalue⟩, hcs⟩

end Values

/-! Written numbers. -/

theorem allDigits_toDigits (n : Nat) : AllDigits (Nat.toDigits 10 n) :=
  fun _ hc => Nat.isDigit_of_mem_toDigits (by decide) (by decide) hc

theorem isWhole_toDigits (n : Nat) : IsWhole (Nat.toDigits 10 n) := by
  refine ⟨Nat.toDigits_ne_nil, allDigits_toDigits n, ?_⟩
  induction n using Nat.strong_induction_on with
  | _ n ih =>
    intro hzero
    by_cases hsmall : n < 10
    · rw [Nat.toDigits_of_lt_base hsmall] at hzero ⊢
      exact congrArg (fun c => [c]) (Option.some.inj hzero)
    · rw [Nat.toDigits_of_base_le (by decide) (by omega),
        List.head?_append_of_ne_nil _ Nat.toDigits_ne_nil] at hzero
      have hdiv := congrArg (Nat.ofDigitChars 10 · 0) (ih (n / 10) (by omega) hzero)
      rw [Nat.ofDigitChars_ten_toDigits] at hdiv
      have : n / 10 = 0 := hdiv
      omega

theorem NumberSpelling.integer [FloatReading] (i : Int) (fits : FitsWord i) :
    NumberSpelling (Number.integer i fits).chars (.integer i fits) := by
  refine ⟨⟨decide (i < 0), Nat.toDigits 10 i.natAbs, none, none⟩, ?_, ?_⟩
  · have h :=
      NumberParts.Spelling.parts (decide (i < 0)) (isWhole_toDigits i.natAbs) .absent .absent
    simpa [minusSign, Number.chars] using h
  · have hsign : (if i < 0 then -(i.natAbs : Int) else i.natAbs) = i := by
      split_ifs <;> omega
    have hzero : ¬(i < 0 ∧ (i.natAbs : Int) = 0) := by omega
    simp only [NumberParts.value, Nat.ofDigitChars_ten_toDigits, decide_eq_true_eq, hsign, hzero,
      fits, true_and, not_false_eq_true, ↓reduceDIte]

/-- With a point or an exponent a number is never an integer. -/
theorem NumberParts.value_eq_float [FloatReading] {p : NumberParts} {f : FiniteDouble}
    (hp : p.fraction ≠ none ∨ p.exponent ≠ none) (h : FloatReading.read p = .finite f) :
    p.value = .ok (.float f) := by
  rw [value, dif_neg]
  · simp only [h]
  · intro hinteger
    exact hp.elim (fun hp => hp hinteger.2.1) fun hp => hp hinteger.2.2.1

theorem ofDigitChars_toDigits_append_zeros (m k : Nat) :
    Nat.ofDigitChars 10 (Nat.toDigits 10 m ++ List.replicate k '0') 0 = m * 10 ^ k := by
  rw [Nat.ofDigitChars_append, Nat.ofDigitChars_replicate_zero, Nat.ofDigitChars_ten_toDigits,
    Nat.mul_comm]

theorem ofDigitChars_zeros_append_toDigits (m k : Nat) :
    Nat.ofDigitChars 10 (List.replicate k '0' ++ Nat.toDigits 10 m) 0 = m := by
  rw [Nat.ofDigitChars_append, Nat.ofDigitChars_replicate_zero, Nat.mul_zero,
    Nat.ofDigitChars_ten_toDigits]

theorem allDigits_zeros (k : Nat) : AllDigits (List.replicate k '0') := by
  intro c hc
  rw [List.eq_of_mem_replicate hc]
  rfl

/-- The digits after the point in positional writing, of which there is at least one. -/
def pointDigits (fraction : List Char) : List Char := if fraction = [] then ['0'] else fraction

theorem pointDigits_ne_nil (fraction : List Char) : pointDigits fraction ≠ [] := by
  unfold pointDigits
  split_ifs with h
  · simp
  · exact h

theorem allDigits_pointDigits {fraction : List Char} (h : AllDigits fraction) :
    AllDigits (pointDigits fraction) := by
  unfold pointDigits
  split_ifs
  · exact allDigits_zeros 1
  · exact h

structure IsPositional (d : Decimal) (whole fraction : List Char) : Prop where
  isWhole : IsWhole whole
  allDigits : AllDigits fraction
  toDouble_eq : (ofParts d.negative whole (pointDigits fraction) 0).toDouble = d.toDouble

theorem isPositional_zeros_after (negative : Bool) {m k : Nat} (hzero : m = 0 → k = 0) :
    IsPositional ⟨negative, m, k⟩ (Nat.toDigits 10 m ++ List.replicate k '0') [] := by
  have hds := isWhole_toDigits m
  refine ⟨⟨by simp [hds.ne_nil], hds.digits.append (allDigits_zeros k), fun hhead => ?_⟩,
    List.forall_mem_nil _, ?_⟩
  · rw [List.head?_append_of_ne_nil _ hds.ne_nil] at hhead
    have hm := congrArg (Nat.ofDigitChars 10 · 0) (hds.zero hhead)
    rw [Nat.ofDigitChars_ten_toDigits] at hm
    rw [hzero hm, List.replicate_zero, List.append_nil, hds.zero hhead]
  · have hdigits : Nat.ofDigitChars 10 (Nat.toDigits 10 m ++ List.replicate k '0' ++ ['0']) 0 =
        m * 10 ^ (k + 1) := by
      rw [List.append_assoc, ← List.replicate_succ', ofDigitChars_toDigits_append_zeros]
    have hexponent : (0 : Int) - (['0'] : List Char).length = (k : Int) - (k + 1 : Nat) := by
      simp
    rw [pointDigits, if_pos rfl, ofParts, hdigits, hexponent, toDouble_mul_pow]

theorem isPositional_point_inside (negative : Bool) {m places : Nat} (hplaces : 0 < places)
    (hlength : places < (Nat.toDigits 10 m).length) :
    IsPositional ⟨negative, m, -places⟩
      ((Nat.toDigits 10 m).take ((Nat.toDigits 10 m).length - places))
      ((Nat.toDigits 10 m).drop ((Nat.toDigits 10 m).length - places)) := by
  have hds := isWhole_toDigits m
  generalize hn : (Nat.toDigits 10 m).length = n at hlength
  have hdrop : (Nat.toDigits 10 m).drop (n - places) ≠ [] := by
    rw [← List.length_pos_iff, List.length_drop, hn]
    omega
  have htake : (Nat.toDigits 10 m).take (n - places) ≠ [] := by
    rw [← List.length_pos_iff, List.length_take, hn]
    omega
  refine ⟨⟨htake, fun c hc => hds.digits c (List.mem_of_mem_take hc), fun hhead => ?_⟩,
    fun c hc => hds.digits c (List.mem_of_mem_drop hc), ?_⟩
  · rw [List.head?_take, if_neg (by omega)] at hhead
    rw [hds.zero hhead, List.take_of_length_le]
    simp only [List.length_singleton]
    omega
  · rw [pointDigits, if_neg hdrop, ofParts, List.take_append_drop,
      Nat.ofDigitChars_ten_toDigits, List.length_drop, hn]
    congr 2
    omega

theorem isPositional_zeros_before (negative : Bool) {m places : Nat}
    (hlength : (Nat.toDigits 10 m).length ≤ places) :
    IsPositional ⟨negative, m, -places⟩ ['0']
      (List.replicate (places - (Nat.toDigits 10 m).length) '0' ++ Nat.toDigits 10 m) := by
  have hds := isWhole_toDigits m
  generalize hn : (Nat.toDigits 10 m).length = n at hlength
  refine ⟨⟨by simp, allDigits_zeros 1, fun _ => rfl⟩, (allDigits_zeros _).append hds.digits, ?_⟩
  have hdigits := ofDigitChars_zeros_append_toDigits m (places - n + 1)
  rw [List.replicate_succ, List.cons_append] at hdigits
  rw [pointDigits, if_neg (by simp [hds.ne_nil]), ofParts, List.singleton_append, hdigits]
  congr 2
  simp only [List.length_append, List.length_replicate, hn]
  omega

/-- A zero with a positive power of ten is the one decimal that has too many zeros. -/
theorem isPositional_positional (d : Decimal) (hzero : d.digits = 0 → d.exponent = 0) :
    IsPositional d d.positional.1 d.positional.2 := by
  obtain ⟨negative, m, e⟩ := d
  by_cases hsign : 0 ≤ e
  · obtain ⟨k, rfl⟩ := Int.eq_ofNat_of_zero_le hsign
    have h := isPositional_zeros_after negative fun hm => Int.natCast_eq_zero.1 (hzero hm)
    simpa [positional] using h
  · obtain ⟨places, rfl⟩ : ∃ places : Nat, e = -places := ⟨(-e).toNat, by omega⟩
    simp only [positional, if_neg hsign, neg_neg, Int.toNat_natCast]
    split_ifs with hlength
    · exact isPositional_point_inside negative (by omega) hlength
    · exact isPositional_zeros_before negative (not_lt.1 hlength)

/-- Scientific digits have the value of the decimal, and the same digits and power of ten. -/
theorem exists_spelling_of_scientific (d : Decimal) : ∃ parts : NumberParts,
    parts.Spelling (d.signText ++ d.scientific) ∧ parts.exponent ≠ none ∧
      parts.decimal = d := by
  have hds := isWhole_toDigits d.digits
  obtain ⟨c, rest, hsplit, hc⟩ := hds.exists_cons
  have hlength : d.magnitude = rest.length + d.exponent := by
    simp [magnitude, hsplit]
  have hwhole : IsWhole [c] := by
    refine ⟨by simp, by simpa [AllDigits] using hc, fun hhead => ?_⟩
    rw [Option.some.inj hhead]
  have hrest : AllDigits rest := fun c' hc' => hds.digits c' (hsplit ▸ List.mem_cons_of_mem c hc')
  obtain ⟨fraction, hfraction, hplaces⟩ : ∃ fraction,
      FractionSpelling (if rest = [] then [] else '.' :: rest) fraction ∧
        fraction.getD [] = rest := by
    split_ifs with hnil
    · exact ⟨none, .absent, hnil.symm⟩
    · exact ⟨some rest, .digits hnil hrest, rfl⟩
  have hexponent : ExponentSpelling ('e' :: (if d.magnitude < 0 then '-' else '+') ::
      Nat.toDigits 10 d.magnitude.natAbs) (some d.magnitude) := by
    have hmagnitude := isWhole_toDigits d.magnitude.natAbs
    have hnegative : d.magnitude < 0 → -(d.magnitude.natAbs : Int) = d.magnitude := by omega
    have hpositive : ¬d.magnitude < 0 → (d.magnitude.natAbs : Int) = d.magnitude := by omega
    split_ifs with hsign
    · have h := ExponentSpelling.power (.inl rfl) (.inr (.inr rfl)) hmagnitude.ne_nil
        hmagnitude.digits
      rwa [signedExponent, if_pos rfl, Nat.ofDigitChars_ten_toDigits, hnegative hsign] at h
    · have h := ExponentSpelling.power (.inl rfl) (.inr (.inl rfl)) hmagnitude.ne_nil
        hmagnitude.digits
      rwa [signedExponent, if_neg (by simp), Nat.ofDigitChars_ten_toDigits, hpositive hsign] at h
  refine ⟨⟨d.negative, [c], fraction, some d.magnitude⟩, ?_, by simp, ?_⟩
  · have h := NumberParts.Spelling.parts d.negative hwhole hfraction hexponent
    simpa [scientific, hsplit, signText, minusSign] using h
  · -- the digits after the point are taken off the magnitude again
    have hdigits : Nat.ofDigitChars 10 (c :: rest) 0 = d.digits := by
      rw [← hsplit, Nat.ofDigitChars_ten_toDigits]
    simp only [NumberParts.decimal, hplaces, Option.getD_some, ofParts, List.singleton_append,
      hdigits, hlength, add_sub_cancel_left]

/-- What is written of a decimal is read as a number with the double of the decimal. -/
theorem exists_spelling_of_numberText (d : Decimal) (hzero : d.digits = 0 → d.exponent = 0) :
    ∃ parts : NumberParts, parts.Spelling d.numberText ∧
      (parts.fraction ≠ none ∨ parts.exponent ≠ none) ∧ parts.decimal.toDouble = d.toDouble := by
  unfold numberText
  split_ifs with hplain
  · have h := isPositional_positional d hzero
    refine ⟨⟨d.negative, d.positional.1, some (pointDigits d.positional.2), none⟩, ?_,
      .inl (by simp), h.toDouble_eq⟩
    have htext := NumberParts.Spelling.parts d.negative h.isWhole
      (.digits (pointDigits_ne_nil _) (allDigits_pointDigits h.allDigits)) .absent
    simpa [signText, minusSign, pointDigits] using htext
  · obtain ⟨parts, hparts, hexponent, hvalue⟩ := exists_spelling_of_scientific d
    exact ⟨parts, hparts, .inr hexponent, by rw [hvalue]⟩

theorem shortest_exponent_of_zero {tie : TieRule} {f : FiniteDouble}
    (h : (f.shortest tie).digits = 0) : (f.shortest tie).exponent = 0 := by
  have hvalue := f.shortest_toDouble tie
  rw [toDouble, if_pos h, Double.zero, Double.finite.injEq] at hvalue
  have hrank : f.rank.val = 0 := by
    rw [← hvalue]
    rfl
  rw [FiniteDouble.shortest, if_pos hrank]

theorem exists_spelling_of_float (f : FiniteDouble) : ∃ parts : NumberParts,
    parts.Spelling f.numberText ∧ (parts.fraction ≠ none ∨ parts.exponent ≠ none) ∧
      parts.decimal.toDouble = .finite f := by
  obtain ⟨parts, hparts, hform, hvalue⟩ :=
    exists_spelling_of_numberText (f.shortest .toEven) shortest_exponent_of_zero
  rw [f.shortest_toDouble] at hvalue
  exact ⟨parts, hparts, hform, hvalue⟩

theorem NumberParts.Spelling.read_all {cs : List Char} {parts : NumberParts}
    (h : parts.Spelling cs) : numberParts cs = .ok (parts, []) := by
  have hend : EndsNumber [] := by simp [EndsNumber]
  have hread := h.read hend
  rwa [List.append_nil] at hread

/-- To round to the nearest double is one way to read back what is written. -/
theorem nearest_readsBack : @FloatReading.ReadsBack .nearest := by
  intro f p hp
  obtain ⟨parts, hparts, _, hvalue⟩ := exists_spelling_of_float f
  rw [hparts.read_all] at hp
  obtain ⟨rfl, _⟩ := Prod.mk.inj (Except.ok.inj hp)
  exact hvalue

/-- The text of a number is read as this number. -/
theorem NumberSpelling.chars [FloatReading] (floats : FloatReading.ReadsBack) (n : Number) :
    NumberSpelling n.chars n := by
  cases n with
  | integer i fits => exact .integer i fits
  | float f =>
    obtain ⟨parts, hparts, hform, _⟩ := exists_spelling_of_float f
    exact ⟨parts, hparts, parts.value_eq_float hform (floats f parts hparts.read_all)⟩

/-! The characters of a number. -/

def IsNumberChar (c : Char) : Prop := c.isDigit = true ∨ c ∈ ['-', '+', '.', 'e', 'E']

theorem numberChars_of_allDigits {ds : List Char} (h : AllDigits ds) :
    ∀ c ∈ ds, IsNumberChar c := fun c hc => .inl (h c hc)

theorem NumberParts.Spelling.numberChars {cs : List Char} {parts : NumberParts}
    (h : parts.Spelling cs) : ∀ c ∈ cs, IsNumberChar c := by
  obtain ⟨negative, hwhole, hfraction, hexponent⟩ := h
  simp only [List.forall_mem_append]
  refine ⟨?_, numberChars_of_allDigits hwhole.digits, ?_, ?_⟩
  · cases negative <;> simp [minusSign, IsNumberChar]
  · cases hfraction with
    | absent => simp
    | digits _ hds => exact List.forall_mem_cons.2 ⟨.inr (by decide), numberChars_of_allDigits hds⟩
  · cases hexponent with
    | absent => simp
    | power hmark hsign _ hds =>
      refine List.forall_mem_cons.2
        ⟨.inr ?_, List.forall_mem_append.2 ⟨?_, numberChars_of_allDigits hds⟩⟩
      · rcases hmark with rfl | rfl <;> decide
      · rcases hsign with rfl | rfl | rfl <;> simp [IsNumberChar]

theorem NumberSpelling.numberChars [FloatReading] {cs : List Char} {n : Number}
    (h : NumberSpelling cs n) :
    ∀ c ∈ cs, IsNumberChar c := by
  obtain ⟨parts, hparts, _⟩ := h
  exact hparts.numberChars

theorem numberChars_chars (n : Number) : ∀ c ∈ n.chars, IsNumberChar c :=
  @NumberSpelling.numberChars .nearest _ _ (@NumberSpelling.chars .nearest nearest_readsBack n)

theorem isBlank_of_isDigit {c : Char} (h : c.isDigit = true) : Text.isBlank c = false := by
  simp only [Char.isDigit, ge_iff_le, Bool.and_eq_true, decide_eq_true_eq,
    UInt32.le_iff_toNat_le] at h
  have hlow : 48 ≤ c.toNat := h.1
  have hhigh : c.toNat ≤ 57 := h.2
  simp only [Text.isBlank, Bool.or_eq_false_iff, Bool.and_eq_false_iff, decide_eq_false_iff_not,
    beq_eq_false_iff_ne]
  omega

theorem isBlank_of_isNumberChar {c : Char} (h : IsNumberChar c) : Text.isBlank c = false := by
  rcases h with hdigit | hmark
  · exact isBlank_of_isDigit hdigit
  · simp only [List.mem_cons, List.not_mem_nil, or_false] at hmark
    rcases hmark with rfl | rfl | rfl | rfl | rfl <;> decide

/-- A number starts with a digit or a minus. -/
theorem NumberSpelling.exists_cons [FloatReading] {cs : List Char} {n : Number}
    (h : NumberSpelling cs n) :
    ∃ c rest, cs = c :: rest ∧ (c = '-' ∨ c.isDigit = true) := by
  obtain ⟨_, ⟨negative, hwhole, _, _⟩, _⟩ := h
  obtain ⟨c, rest, rfl, hc⟩ := hwhole.exists_cons
  cases negative with
  | true => exact ⟨'-', _, rfl, .inl rfl⟩
  | false => exact ⟨c, _, rfl, .inr hc⟩

end ChangeSieve.Json.Reader
