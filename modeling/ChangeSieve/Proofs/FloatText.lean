import ChangeSieve.Number.Decimal
import Mathlib.Data.List.TakeWhile

/-! The grammar of float texts, which are the texts that denote a double. -/
namespace ChangeSieve

namespace Decimal

def AllDigits (cs : List Char) : Prop := ∀ c ∈ cs, c.isDigit = true

def IsSign (cs : List Char) : Prop := cs = [] ∨ cs = ['+'] ∨ cs = ['-']

/-- Nothing, or a mark with a sign or none and at least one digit. -/
inductive IsExponent : List Char → Prop where
  | absent : IsExponent []
  | power {mark : Char} {sign digits : List Char} (hmark : mark = 'e' ∨ mark = 'E')
      (hsign : IsSign sign) (hne : digits ≠ []) (hdigits : AllDigits digits) :
      IsExponent (mark :: (sign ++ digits))

/-- Digits with a point or none, at least one digit in all, and an exponent. -/
inductive IsUnsigned : List Char → Prop where
  | whole {digits exponent : List Char} (hne : digits ≠ []) (hdigits : AllDigits digits)
      (hexponent : IsExponent exponent) : IsUnsigned (digits ++ exponent)
  | pointed {digits fraction exponent : List Char} (hne : digits ++ fraction ≠ [])
      (hdigits : AllDigits digits) (hfraction : AllDigits fraction)
      (hexponent : IsExponent exponent) :
      IsUnsigned (digits ++ '.' :: (fraction ++ exponent))

end Decimal

namespace Double

/-- A word for an infinity or for no number, in any letter case. -/
def IsWord (cs : List Char) : Prop :=
  cs.map Char.toLower ∈ ["nan", "inf", "infinity"].map String.toList

inductive IsText : List Char → Prop where
  | word {sign body : List Char} (hsign : Decimal.IsSign sign) (hbody : IsWord body) :
      IsText (sign ++ body)
  | decimal {sign body : List Char} (hsign : Decimal.IsSign sign)
      (hbody : Decimal.IsUnsigned body) : IsText (sign ++ body)

end Double

namespace Decimal

theorem splitSign_spec (cs : List Char) : ∃ sign, IsSign sign ∧ sign ++ (splitSign cs).2 = cs ∧
    (splitSign cs).1 = decide (sign = ['-']) := by
  unfold splitSign
  split
  · exact ⟨['-'], .inr (.inr rfl), rfl, rfl⟩
  · exact ⟨['+'], .inr (.inl rfl), rfl, rfl⟩
  · exact ⟨[], .inl rfl, rfl, rfl⟩

theorem splitSign_append {sign body : List Char} (hsign : IsSign sign)
    (hbody : ∀ c ∈ body.head?, c ≠ '+' ∧ c ≠ '-') :
    splitSign (sign ++ body) = (decide (sign = ['-']), body) := by
  obtain rfl | rfl | rfl := hsign
  · cases body with
    | nil => rfl
    | cons c rest =>
      obtain ⟨hplus, hminus⟩ := hbody c rfl
      simp [splitSign, hplus, hminus]
  · rfl
  · rfl

theorem AllDigits.append {as bs : List Char} (has : AllDigits as) (hbs : AllDigits bs) :
    AllDigits (as ++ bs) := fun c hc => (List.mem_append.1 hc).elim (has c) (hbs c)

theorem splitDigits_append {digits rest : List Char} (hdigits : AllDigits digits)
    (hrest : ∀ c ∈ rest.head?, c.isDigit = false) :
    splitDigits (digits ++ rest) = (digits, rest) := by
  rw [splitDigits, List.takeWhile_append_of_pos hdigits, List.dropWhile_append_of_pos hdigits]
  cases rest with
  | nil => simp
  | cons c rest => simp [hrest c rfl]

theorem splitDigits_spec (cs : List Char) : AllDigits (splitDigits cs).1 ∧
    (splitDigits cs).1 ++ (splitDigits cs).2 = cs :=
  ⟨fun _ hc => List.mem_takeWhile_imp hc, List.takeWhile_append_dropWhile⟩

theorem IsExponent.head_not_digit {cs : List Char} (h : IsExponent cs) :
    ∀ c ∈ cs.head?, c.isDigit = false := by
  cases h with
  | absent => simp
  | power hmark => rcases hmark with rfl | rfl <;> simp

theorem IsExponent.splitFraction {cs : List Char} (h : IsExponent cs) :
    splitFraction cs = ([], cs) := by
  cases h with
  | absent => rfl
  | power hmark => rcases hmark with rfl | rfl <;> rfl

/-- Digits are no signs. -/
theorem AllDigits.head_not_sign {cs : List Char} (h : AllDigits cs) :
    ∀ c ∈ cs.head?, c ≠ '+' ∧ c ≠ '-' := by
  intro c hc
  have hdigit := h c (List.mem_of_mem_head? hc)
  constructor
  · intro h'
    subst h'
    exact absurd hdigit (by decide)
  · intro h'
    subst h'
    exact absurd hdigit (by decide)

theorem exponent?_isSome_iff {cs : List Char} : (exponent? cs).isSome = true ↔ IsExponent cs := by
  constructor
  · intro h
    cases cs with
    | nil => exact .absent
    | cons c rest =>
      simp only [exponent?] at h
      split at h
      next hpower =>
        obtain ⟨hmark, hne, hdigits⟩ := hpower
        obtain ⟨sign, hsign, hrest, _⟩ := splitSign_spec rest
        rw [← hrest]
        exact .power hmark hsign hne (List.all_eq_true.1 hdigits)
      next => simp at h
  · intro h
    rcases h with _ | ⟨hmark, hsign, hne, hdigits⟩
    · rfl
    · have hsplit := splitSign_append hsign hdigits.head_not_sign
      simp only [exponent?, hsplit]
      rw [if_pos ⟨hmark, hne, List.all_eq_true.2 hdigits⟩]
      rfl

theorem ofUnsigned?_isSome_iff {negative : Bool} {cs : List Char} :
    (ofUnsigned? negative cs).isSome = true ↔ IsUnsigned cs := by
  constructor
  · intro h
    rcases hsplit : splitDigits cs with ⟨digits, rest⟩
    obtain ⟨hdigits, rfl⟩ : AllDigits digits ∧ digits ++ rest = cs := by
      simpa only [hsplit] using splitDigits_spec cs
    simp only [ofUnsigned?, hsplit] at h
    unfold splitFraction at h
    split at h
    next tail =>
      rcases hsplit' : splitDigits tail with ⟨fraction, exponent⟩
      obtain ⟨hfraction, rfl⟩ : AllDigits fraction ∧ fraction ++ exponent = tail := by
        simpa only [hsplit'] using splitDigits_spec tail
      simp only [hsplit'] at h
      split_ifs at h with hne
      · simp at h
      rw [Option.isSome_map, exponent?_isSome_iff] at h
      exact .pointed hne hdigits hfraction h
    next =>
      split_ifs at h with hne
      · simp at h
      rw [Option.isSome_map, exponent?_isSome_iff] at h
      exact .whole (by simpa using hne) hdigits h
  · rintro (⟨hne, hdigits, hexponent⟩ |
      @⟨digits, fraction, exponent, hne, hdigits, hfraction, hexponent⟩)
    · have hsplit := splitDigits_append hdigits hexponent.head_not_digit
      simp only [ofUnsigned?, hsplit, hexponent.splitFraction]
      rw [if_neg (by simpa using hne), Option.isSome_map, exponent?_isSome_iff]
      exact hexponent
    · have hsplit : splitDigits (digits ++ '.' :: (fraction ++ exponent)) =
          (digits, '.' :: (fraction ++ exponent)) := splitDigits_append hdigits (by simp)
      have hsplit' := splitDigits_append hfraction hexponent.head_not_digit
      simp only [ofUnsigned?, hsplit, Decimal.splitFraction, hsplit']
      rw [if_neg hne, Option.isSome_map, exponent?_isSome_iff]
      exact hexponent

/-- A decimal starts with a digit or a point. -/
theorem IsUnsigned.head_not_sign {cs : List Char} (h : IsUnsigned cs) :
    ∀ c ∈ cs.head?, c ≠ '+' ∧ c ≠ '-' := by
  have hhead {digits rest : List Char} (hdigits : AllDigits digits) (hne : digits ≠ []) :
      ∀ c ∈ (digits ++ rest).head?, c ≠ '+' ∧ c ≠ '-' := by
    rw [List.head?_append, List.head?_eq_some_head hne]
    simpa [List.head?_eq_some_head hne] using hdigits.head_not_sign
  cases h with
  | whole hne hdigits => exact hhead hdigits hne
  | @pointed digits _ _ _ hdigits =>
    by_cases hnil : digits = []
    · simp [hnil]
    · exact hhead hdigits hnil

end Decimal

namespace Double

theorem isWord_iff {cs : List Char} : IsWord cs ↔ cs.map Char.toLower = ['n', 'a', 'n'] ∨
    cs.map Char.toLower = ['i', 'n', 'f'] ∨
    cs.map Char.toLower = ['i', 'n', 'f', 'i', 'n', 'i', 't', 'y'] := by
  simp [IsWord]

theorem IsWord.head_not_sign {cs : List Char} (h : IsWord cs) :
    ∀ c ∈ cs.head?, c ≠ '+' ∧ c ≠ '-' := by
  intro c hc
  have hlower : (cs.map Char.toLower).head? = some c.toLower := by
    rw [List.head?_map, hc, Option.map_some]
  have hletter : c.toLower = 'n' ∨ c.toLower = 'i' := by
    obtain h | h | h := isWord_iff.1 h <;> rw [h] at hlower <;> simp at hlower <;> simp [← hlower]
  constructor
  · intro h'
    subst h'
    exact absurd hletter (by decide)
  · intro h'
    subst h'
    exact absurd hletter (by decide)

theorem ofText?_isSome_iff_body {cs : List Char} : (ofText? cs).isSome = true ↔
    IsWord (Decimal.splitSign cs).2 ∨ Decimal.IsUnsigned (Decimal.splitSign cs).2 := by
  rw [isWord_iff]
  simp only [ofText?]
  split_ifs with hnan hinfinite
  · simp [hnan]
  · simpa using .inl (.inr hinfinite)
  · rw [Option.isSome_map, Decimal.ofUnsigned?_isSome_iff]
    simp [hnan, hinfinite]

/-- A text denotes a double when it follows the grammar. -/
theorem ofText?_isSome_iff {cs : List Char} : (ofText? cs).isSome = true ↔ IsText cs := by
  rw [ofText?_isSome_iff_body]
  constructor
  · obtain ⟨sign, hsign, hcs, _⟩ := Decimal.splitSign_spec cs
    intro h
    rcases h with hword | hdecimal
    · rw [← hcs]
      exact .word hsign hword
    · rw [← hcs]
      exact .decimal hsign hdecimal
  · intro h
    rcases h with ⟨hsign, hbody⟩ | ⟨hsign, hbody⟩
    · rw [Decimal.splitSign_append hsign hbody.head_not_sign]
      exact .inl hbody
    · rw [Decimal.splitSign_append hsign hbody.head_not_sign]
      exact .inr hbody

end Double

end ChangeSieve
