import ChangeSieve.Json.Basic
import Mathlib.Tactic.Positivity
import Mathlib.Tactic.Ring

/-!
Rounding quotients and decimals to doubles. The rank of a quotient depends on its value alone and is
exact where a double has this value, so decimals that write one number are read as one double.
-/
namespace ChangeSieve

namespace Double

theorem octave_eq : octave = 2 ^ 52 := rfl

theorem div_le_roundHalfEven (num den : Nat) : num / den ≤ roundHalfEven num den := by
  unfold roundHalfEven
  dsimp only
  split_ifs <;> omega

theorem roundHalfEven_le (num den : Nat) : roundHalfEven num den ≤ num / den + 1 := by
  unfold roundHalfEven
  dsimp only
  split_ifs <;> omega

theorem roundHalfEven_mul_left {k : Nat} (hk : 0 < k) (num den : Nat) :
    roundHalfEven (k * num) (k * den) = roundHalfEven num den := by
  have hbelow (a b : Nat) : 2 * (k * a) < k * b ↔ 2 * a < b := by
    rw [Nat.mul_left_comm, Nat.mul_lt_mul_left hk]
  have habove (a b : Nat) : k * b < 2 * (k * a) ↔ b < 2 * a := by
    rw [Nat.mul_left_comm, Nat.mul_lt_mul_left hk]
  simp only [roundHalfEven, Nat.mul_div_mul_left _ _ hk, Nat.mul_mod_mul_left, hbelow, habove]

theorem roundHalfEven_mul_self {den : Nat} (hden : 0 < den) (q : Nat) :
    roundHalfEven (q * den) den = q := by
  simp [roundHalfEven, Nat.mul_div_cancel _ hden, hden]

/-- The exponent of the units, kept as a name so that no proof computes its power. -/
@[irreducible]
def unitBits : Nat := 1074

theorem unitBits_eq : unitBits = 1074 := by
  unfold unitBits
  rfl

/-- The rank of a quotient whose numerator is already counted in units. -/
def rankOfUnits (scaled den : Nat) : Nat :=
  let shift := (scaled / den).log2 - 52
  shift * octave + roundHalfEven scaled (den * 2 ^ shift)

theorem rankOfQuotient_eq_rankOfUnits (num den : Nat) :
    rankOfQuotient num den = rankOfUnits (num * 2 ^ unitBits) den := by
  rw [← Nat.shiftLeft_eq, unitBits_eq, rankOfQuotient, rankOfUnits]
  simp only [Nat.shiftLeft_eq den]

theorem rankOfUnits_mul_left {k : Nat} (hk : 0 < k) (scaled den : Nat) :
    rankOfUnits (k * scaled) (k * den) = rankOfUnits scaled den := by
  simp only [rankOfUnits, Nat.mul_assoc, Nat.mul_div_mul_left _ _ hk, roundHalfEven_mul_left hk]

theorem rankOfQuotient_mul_left {k : Nat} (hk : 0 < k) (num den : Nat) :
    rankOfQuotient (k * num) (k * den) = rankOfQuotient num den := by
  simp only [rankOfQuotient_eq_rankOfUnits, Nat.mul_assoc, rankOfUnits_mul_left hk]

/-- Equal quotients have one rank. -/
theorem rankOfQuotient_congr {a b c d : Nat} (hb : 0 < b) (hd : 0 < d) (h : a * d = c * b) :
    rankOfQuotient a b = rankOfQuotient c d :=
  calc rankOfQuotient a b
    _ = rankOfQuotient (d * a) (d * b) := (rankOfQuotient_mul_left hd a b).symm
    _ = rankOfQuotient (b * c) (b * d) := by
      rw [Nat.mul_comm d a, h, Nat.mul_comm c b, Nat.mul_comm d b]
    _ = rankOfQuotient c d := rankOfQuotient_mul_left hb c d

/-- A magnitude is an integer of at most 53 bits, all of them used if it is shifted. -/
theorem unitsOfRank_eq (rank : Nat) : ∃ m e, unitsOfRank rank = m * 2 ^ e ∧
    e * octave + m = rank ∧ m < 2 ^ 53 ∧ (e ≠ 0 → 2 ^ 52 ≤ m) := by
  unfold unitsOfRank
  split_ifs with hsmall
  · refine ⟨rank, 0, by simp, by simp, ?_, by simp⟩
    rw [octave_eq] at hsmall
    omega
  · refine ⟨octave + rank % octave, rank / octave - 1, Nat.shiftLeft_eq _ _, ?_, ?_, ?_⟩
    · have hdiv := Nat.div_add_mod rank octave
      rw [octave_eq] at *
      omega
    · have hmod : rank % octave < octave := Nat.mod_lt _ (by decide)
      rw [octave_eq] at *
      omega
    · intro _
      exact Nat.le_add_right _ _

theorem log2_lt_of_lt {n k : Nat} (hk : 0 < k) (h : n < 2 ^ k) : n.log2 < k := by
  by_cases hn : n = 0
  · simpa [hn] using hk
  · exact (Nat.log2_lt hn).2 h

theorem scaled_lt {num den k j : Nat} (hden : 0 < den) (h : num < 2 ^ k * den) :
    num * 2 ^ j / den < 2 ^ (k + j) := by
  rw [Nat.div_lt_iff_lt_mul hden, pow_add, Nat.mul_right_comm]
  exact Nat.mul_lt_mul_of_pos_right h (Nat.two_pow_pos j)

theorem le_scaled {num den k j : Nat} (hden : 0 < den) (h : 2 ^ k * den ≤ num) :
    2 ^ (k + j) ≤ num * 2 ^ j / den := by
  rw [Nat.le_div_iff_mul_le hden, pow_add, Nat.mul_right_comm]
  exact Nat.mul_le_mul_right _ h

/-- A magnitude is its own nearest one. -/
theorem rankOfUnits_unitsOfRank (rank : Nat) {den : Nat} (hden : 0 < den) :
    rankOfUnits (unitsOfRank rank * den) den = rank := by
  obtain ⟨m, e, hunits, hrank, hlt, hge⟩ := unitsOfRank_eq rank
  have hshift : (m * 2 ^ e).log2 - 52 = e := by
    by_cases he : e = 0
    · subst he
      rw [pow_zero, mul_one]
      exact Nat.sub_eq_zero_of_le (Nat.le_of_lt_succ (log2_lt_of_lt (by decide) hlt))
    · have hpos : 0 < 2 ^ e := Nat.two_pow_pos e
      have hm := hge he
      have hlog : (m * 2 ^ e).log2 = 52 + e := by
        rw [Nat.log2_eq_iff (by positivity), pow_add, show 52 + e + 1 = 53 + e by omega, pow_add]
        exact ⟨Nat.mul_le_mul_right _ hm, Nat.mul_lt_mul_of_pos_right hlt hpos⟩
      omega
  have hround : roundHalfEven (m * 2 ^ e * den) (den * 2 ^ e) = m := by
    rw [Nat.mul_assoc, Nat.mul_comm (2 ^ e) den]
    exact roundHalfEven_mul_self (by positivity) m
  simp only [rankOfUnits, hunits, Nat.mul_div_cancel _ hden, hshift, hround, hrank]

/-- Quotients up to half of `2 ^ 1024` are rounded to finite doubles. -/
theorem rankOfQuotient_lt_span {num den k : Nat} (hden : 0 < den) (hk : k ≤ 1023)
    (h : num < 2 ^ k * den) : rankOfQuotient num den < span := by
  have hunits := unitBits_eq
  have hlog := log2_lt_of_lt (by omega) (scaled_lt (j := unitBits) hden h)
  rw [rankOfQuotient_eq_rankOfUnits, rankOfUnits]
  generalize num * 2 ^ unitBits = scaled at hlog ⊢
  generalize hshift : (scaled / den).log2 - 52 = shift
  have hround := roundHalfEven_le scaled (den * 2 ^ shift)
  have hmantissa : scaled / den / 2 ^ shift < 2 ^ 53 := by
    rw [Nat.div_lt_iff_lt_mul (Nat.two_pow_pos _), ← pow_add]
    exact Nat.lt_log2_self.trans_le (Nat.pow_le_pow_right (by decide) (by omega))
  rw [← Nat.div_div_eq_div_mul] at hround
  have hoctaves : shift * octave ≤ 2044 * octave := Nat.mul_le_mul_right _ (by omega)
  rw [span, octave_eq] at *
  omega

/-- Quotients from `2 ^ 1024` on are past all finite doubles. -/
theorem span_le_rankOfQuotient {num den k : Nat} (hden : 0 < den) (hk : 1024 ≤ k)
    (h : 2 ^ k * den ≤ num) : span ≤ rankOfQuotient num den := by
  have hunits := unitBits_eq
  have hscaled := le_scaled (j := unitBits) hden h
  rw [rankOfQuotient_eq_rankOfUnits, rankOfUnits]
  generalize num * 2 ^ unitBits = scaled at hscaled ⊢
  have hne : scaled / den ≠ 0 := Nat.ne_of_gt ((Nat.two_pow_pos _).trans_le hscaled)
  have hlog := (Nat.le_log2 hne).2 hscaled
  generalize hshift : (scaled / den).log2 - 52 = shift
  have hround := div_le_roundHalfEven scaled (den * 2 ^ shift)
  have hmantissa : 2 ^ 52 ≤ scaled / den / 2 ^ shift := by
    rw [Nat.le_div_iff_mul_le (Nat.two_pow_pos _), ← pow_add]
    exact (Nat.pow_le_pow_right (by decide) (by omega)).trans (Nat.log2_self_le hne)
  rw [← Nat.div_div_eq_div_mul] at hround
  have hoctaves : 2046 * octave ≤ shift * octave := Nat.mul_le_mul_right _ (by omega)
  rw [span, octave_eq] at *
  omega

/-- Quotients below `2 ^ -1075` are rounded to zero. -/
theorem rankOfQuotient_eq_zero {num den k : Nat} (hk : 1075 ≤ k) (h : num * 2 ^ k < den) :
    rankOfQuotient num den = 0 := by
  have hunits := unitBits_eq
  have hhalf : 2 * (num * 2 ^ unitBits) < den :=
    calc 2 * (num * 2 ^ unitBits)
      _ = num * 2 ^ (unitBits + 1) := by ring
      _ ≤ num * 2 ^ k := Nat.mul_le_mul_left _ (Nat.pow_le_pow_right (by decide) (by omega))
      _ < den := h
  rw [rankOfQuotient_eq_rankOfUnits, rankOfUnits]
  generalize num * 2 ^ unitBits = scaled at hhalf ⊢
  have hlt : scaled < den := by omega
  simp [roundHalfEven, Nat.div_eq_of_lt hlt, Nat.mod_eq_of_lt hlt, hhalf]

theorem ofRank_of_lt {negative : Bool} {rank : Nat} (h : rank < span) :
    ofRank negative rank = .finite ⟨negative, ⟨rank, h⟩⟩ := by
  rw [ofRank, dif_pos h]

theorem ofRank_of_le {negative : Bool} {rank : Nat} (h : span ≤ rank) :
    ofRank negative rank = .infinite negative := by
  rw [ofRank, dif_neg (Nat.not_lt.2 h)]

/-- Integers of 64 bits are rounded to finite doubles. -/
theorem ofInt_isFinite {i : Int} (h : FitsWord i) : (ofInt i).isFinite = true := by
  obtain ⟨hlower, hupper⟩ := h
  have hlt : i.natAbs < 2 ^ 64 * 1 := by omega
  rw [ofInt, ofQuotient, ofRank_of_lt (rankOfQuotient_lt_span Nat.one_pos (by decide) hlt)]
  rfl

end Double

/-- The double of a number is always finite. -/
@[simp] theorem Number.toDouble_isFinite (n : Number) : n.toDouble.isFinite = true := by
  cases n with
  | integer i fits => exact Double.ofInt_isFinite fits
  | float f => rfl

namespace Decimal

theorem tenPow_eq (n : Nat) : tenPow n = 10 ^ n := rfl

theorem two_pow_le_ten_pow {k n : Nat} (h : k ≤ 3 * n) : 2 ^ k ≤ 10 ^ n :=
  calc 2 ^ k
    _ ≤ 2 ^ (3 * n) := Nat.pow_le_pow_right (by decide) h
    _ = (2 ^ 3) ^ n := pow_mul 2 3 n
    _ ≤ 10 ^ n := Nat.pow_le_pow_left (by decide) n

/-- The cases that are decided by size alone are no exceptions from rounding. -/
theorem toDouble_eq_ofQuotient (d : Decimal) :
    d.toDouble = .ofQuotient d.negative (d.digits * 10 ^ d.exponent.toNat)
      (10 ^ (-d.exponent).toNat) := by
  obtain ⟨k, hk⟩ : ∃ k, k = 1075 := ⟨_, rfl⟩
  simp only [toDouble, tenPow_eq]
  split_ifs with hzero hlarge hsmall hsign
  · have hnum : d.digits * 10 ^ d.exponent.toNat * 2 ^ k < 10 ^ (-d.exponent).toNat := by
      rw [hzero, Nat.zero_mul, Nat.zero_mul]
      positivity
    rw [Double.ofQuotient, Double.rankOfQuotient_eq_zero hk.ge hnum, Double.ofRank_of_lt]
    rfl
  · have hscale : (-d.exponent).toNat = 0 := by omega
    have hnum : 2 ^ k * 10 ^ 0 ≤ d.digits * 10 ^ d.exponent.toNat :=
      calc 2 ^ k * 10 ^ 0
        _ = 1 * 2 ^ k := by rw [pow_zero, Nat.mul_comm]
        _ ≤ d.digits * 10 ^ d.exponent.toNat :=
          Nat.mul_le_mul (Nat.one_le_iff_ne_zero.2 hzero) (two_pow_le_ten_pow (by omega))
    rw [Double.ofQuotient, hscale,
      Double.ofRank_of_le (Double.span_le_rankOfQuotient (Nat.pow_pos (by decide)) (by omega) hnum)]
  · have hscale : d.exponent.toNat = 0 := by omega
    have hnum : d.digits * 10 ^ 0 * 2 ^ k < 10 ^ (-d.exponent).toNat :=
      calc d.digits * 10 ^ 0 * 2 ^ k
        _ = d.digits * 2 ^ k := by rw [pow_zero, mul_one]
        _ < 2 ^ (d.digits.log2 + 1) * 2 ^ k :=
          Nat.mul_lt_mul_of_pos_right Nat.lt_log2_self (Nat.two_pow_pos _)
        _ ≤ 10 ^ (d.digits.log2 + 1) * 10 ^ (k / 3 + 1) :=
          Nat.mul_le_mul (Nat.pow_le_pow_left (by decide) _) (two_pow_le_ten_pow (by omega))
        _ = 10 ^ (d.digits.log2 + 1 + (k / 3 + 1)) := (pow_add 10 _ _).symm
        _ ≤ 10 ^ (-d.exponent).toNat := Nat.pow_le_pow_right (by decide) (by omega)
    rw [Double.ofQuotient, hscale, Double.rankOfQuotient_eq_zero hk.ge hnum, Double.ofRank_of_lt]
    rfl
  · rw [show (-d.exponent).toNat = 0 by omega, pow_zero]
  · rw [show d.exponent.toNat = 0 by omega, pow_zero, mul_one]

/-- A power of ten may stand in the digits or in the exponent. -/
theorem toDouble_mul_pow (negative : Bool) (digits k : Nat) (exponent : Int) :
    toDouble ⟨negative, digits * 10 ^ k, exponent - k⟩ =
      toDouble ⟨negative, digits, exponent⟩ := by
  simp only [toDouble_eq_ofQuotient, Double.ofQuotient]
  refine congrArg (Double.ofRank negative)
    (Double.rankOfQuotient_congr (Nat.pow_pos (by decide)) (Nat.pow_pos (by decide)) ?_)
  have hexponent : k + (exponent - k).toNat + (-exponent).toNat =
      exponent.toNat + (-(exponent - k)).toNat := by
    omega
  calc digits * 10 ^ k * 10 ^ (exponent - k).toNat * 10 ^ (-exponent).toNat
    _ = digits * 10 ^ (k + (exponent - k).toNat + (-exponent).toNat) := by ring
    _ = digits * 10 ^ exponent.toNat * 10 ^ (-(exponent - k)).toNat := by rw [hexponent]; ring

theorem dropZeros_toDouble (n : Nat) (d : Decimal) : (dropZeros n d).toDouble = d.toDouble := by
  induction n generalizing d with
  | zero => rfl
  | succ n ih =>
    rw [dropZeros]
    split_ifs with h
    · have hdigits : d.digits / 10 * 10 ^ 1 = d.digits := by omega
      have hshift := toDouble_mul_pow d.negative (d.digits / 10) 1 (d.exponent + 1)
      rw [hdigits, Nat.cast_one, add_sub_cancel_right] at hshift
      rw [ih, ← hshift]
    · rfl

end Decimal

namespace FiniteDouble

theorem exactDecimal_digits (f : FiniteDouble) {k : Nat} (hk : k = 1074) :
    f.exactDecimal.digits = f.units * Nat.pow 5 k := by
  have h : f.exactDecimal.digits = f.units * Nat.pow 5 1074 := rfl
  simp only [← hk] at h
  exact h

theorem exactDecimal_exponent (f : FiniteDouble) :
    f.exactDecimal.exponent = -(Double.unitBits : Int) := by
  rw [Double.unitBits_eq]
  rfl

theorem exactDecimal_toDouble (f : FiniteDouble) : f.exactDecimal.toDouble = .finite f := by
  have hscale : (-(Double.unitBits : Int)).toNat = 0 := by omega
  have hnum : f.units * Nat.pow 5 Double.unitBits * 10 ^ 0 * 2 ^ Double.unitBits =
      Double.unitsOfRank f.rank * 10 ^ Double.unitBits := by
    rw [pow_zero, mul_one, Nat.pow_eq, Nat.mul_assoc, ← Nat.mul_pow]
    rfl
  rw [Decimal.toDouble_eq_ofQuotient, f.exactDecimal_digits Double.unitBits_eq,
    exactDecimal_exponent, Double.ofQuotient, Double.rankOfQuotient_eq_rankOfUnits, hscale, hnum,
    neg_neg, Int.toNat_natCast, Double.rankOfUnits_unitsOfRank _ (Nat.pow_pos (by decide))]
  exact Double.ofRank_of_lt f.rank.isLt

theorem roundedTo?_toDouble {tie : TieRule} {f : FiniteDouble} {leading : List Char} {n : Nat}
    {d : Decimal} (h : f.roundedTo? tie leading n = some d) : d.toDouble = .finite f := by
  simp only [roundedTo?] at h
  split at h
  next hlower hupper =>
    obtain rfl := Option.some.inj h
    split_ifs
    · exact eq_of_beq hupper
    · exact eq_of_beq hlower
  next hlower _ =>
    obtain rfl := Option.some.inj h
    exact eq_of_beq hlower
  next _ hupper =>
    obtain rfl := Option.some.inj h
    exact eq_of_beq hupper
  next => cases h

/-- The shortest digits of a double are read as this double. -/
theorem shortest_toDouble (tie : TieRule) (f : FiniteDouble) :
    (f.shortest tie).toDouble = .finite f := by
  simp only [shortest]
  split_ifs with hzero
  · obtain ⟨negative, rank⟩ := f
    obtain rfl : rank = ⟨0, by decide⟩ := Fin.ext hzero
    rfl
  · rw [Decimal.dropZeros_toDouble]
    cases hfound : ((List.range 17).map (· + 1)).findSome? (f.roundedTo? tie f.leadingDigits) with
    | none => exact f.exactDecimal_toDouble
    | some d =>
      obtain ⟨n, _, hd⟩ := List.exists_of_findSome?_eq_some hfound
      exact roundedTo?_toDouble hd

end FiniteDouble

end ChangeSieve
