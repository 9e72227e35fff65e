import ChangeSieve.Proofs.NumberText
import ChangeSieve.Proofs.StringText

/-!
The grammar of JSON texts. The reader takes exactly its texts of limited depth, each as the value it
stands for.
-/
namespace ChangeSieve.Json
open Outcome

namespace Reader

/-! The grammar. -/

def Blanks (cs : List Char) : Prop := ∀ c ∈ cs, isBlank c = true

inductive ScalarText [FloatReading] : List Char → Json → Prop where
  | null : ScalarText ['n', 'u', 'l', 'l'] .null
  | yes : ScalarText ['t', 'r', 'u', 'e'] (.boolean true)
  | no : ScalarText ['f', 'a', 'l', 's', 'e'] (.boolean false)
  | number {cs : List Char} {n : Number} (h : NumberSpelling cs n) : ScalarText cs (.number n)
  | string {cs ds : List Char} (h : StringText cs ds) :
      ScalarText ('"' :: cs) (.string (String.ofList ds))

section Containers
variable {α : Type}

inductive Spaced (Item : List Char → α → Prop) : List Char → α → Prop where
  | blanks {bs used es : List Char} {a : α} (hbs : Blanks bs) (ha : Item used a)
      (hes : Blanks es) : Spaced Item (bs ++ (used ++ es)) a

inductive SeriesText (close : Char) (Item : List Char → α → Prop) : List Char → List α → Prop where
  | last {cs : List Char} {a : α} (ha : Spaced Item cs a) :
      SeriesText close Item (cs ++ [close]) [a]
  | next {cs tail : List Char} {a : α} {as : List α} (ha : Spaced Item cs a)
      (htail : SeriesText close Item tail as) : SeriesText close Item (cs ++ ',' :: tail) (a :: as)

inductive BodyText (close : Char) (Item : List Char → α → Prop) : List Char → List α → Prop where
  | empty {bs : List Char} (hbs : Blanks bs) : BodyText close Item (bs ++ [close]) []
  | items {used : List Char} {as : List α} (h : SeriesText close Item used as) :
      BodyText close Item used as

end Containers

inductive MemberText (Value : List Char → Json → Prop) : List Char → String × Json → Prop where
  | member {key ds bs es used : List Char} {v : Json} (hkey : StringText key ds) (hbs : Blanks bs)
      (hes : Blanks es) (hv : Value used v) :
      MemberText Value ('"' :: (key ++ (bs ++ ':' :: (es ++ used)))) (String.ofList ds, v)

inductive NestText (Value : List Char → Json → Prop) : List Char → Json → Prop where
  | array {cs : List Char} {items : List Json} (h : BodyText ']' Value cs items) :
      NestText Value ('[' :: cs) (.array items)
  | object {cs : List Char} {members : List (String × Json)}
      (h : BodyText '}' (MemberText Value) cs members) :
      NestText Value ('{' :: cs) (.object (Fields.ofList members))

/-- A value with at most `depth` levels of arrays and objects, without blanks around it. -/
def ValueText [FloatReading] : Nat → List Char → Json → Prop
  | 0 => ScalarText
  | depth + 1 => fun cs v => ScalarText cs v ∨ NestText (ValueText depth) cs v

theorem ValueText.scalar [FloatReading] {cs : List Char} {v : Json} (h : ScalarText cs v)
    (depth : Nat) :
    ValueText depth cs v := by
  cases depth with
  | zero => exact h
  | succ depth => exact .inl h

/-! Blanks. -/

@[simp] theorem blanks_nil : Blanks [] := List.forall_mem_nil _

@[simp] theorem blanks_append_iff {as bs : List Char} : Blanks (as ++ bs) ↔ Blanks as ∧ Blanks bs :=
  List.forall_mem_append

theorem skipBlank_append {bs : List Char} (hbs : Blanks bs) (cs : List Char) :
    skipBlank (bs ++ cs) = skipBlank cs :=
  List.dropWhile_append_of_pos hbs

theorem skipBlank_cons {c : Char} (hc : isBlank c = false) (cs : List Char) :
    skipBlank (c :: cs) = c :: cs :=
  List.dropWhile_cons_of_neg (by simp [hc])

theorem exists_blanks (cs : List Char) : ∃ bs, Blanks bs ∧ cs = bs ++ skipBlank cs :=
  ⟨cs.takeWhile isBlank, fun _ hc => List.mem_takeWhile_imp hc,
    List.takeWhile_append_dropWhile.symm⟩

@[simp] theorem skipBlank_eq_nil_iff {cs : List Char} : skipBlank cs = [] ↔ Blanks cs :=
  List.dropWhile_eq_nil_iff

/-! What tokens of values start with. -/

def Starts (c : Char) : Prop := Text.isBlank c = false ∧ c ≠ ']' ∧ c ≠ '}'

theorem isBlank_of_text {c : Char} (h : Text.isBlank c = false) : isBlank c = false := by
  by_contra hblank
  simp only [isBlank, Bool.not_eq_false, Bool.or_eq_true, decide_eq_true_eq] at hblank
  obtain ((rfl | rfl) | rfl) | rfl := hblank <;> exact absurd h (by decide)

theorem starts_of_isDigit {c : Char} (h : c.isDigit = true) : Starts c := by
  refine ⟨isBlank_of_isDigit h, ?_, ?_⟩
  · rintro rfl
    exact absurd h (by decide)
  · rintro rfl
    exact absurd h (by decide)

theorem ScalarText.exists_cons [FloatReading] {cs : List Char} {v : Json} (h : ScalarText cs v) :
    ∃ c rest, cs = c :: rest ∧ Starts c := by
  cases h with
  | number h =>
    obtain ⟨c, rest, rfl, rfl | hdigit⟩ := h.exists_cons
    · exact ⟨'-', rest, rfl, by decide, by decide, by decide⟩
    · exact ⟨c, rest, rfl, starts_of_isDigit hdigit⟩
  | _ => exact ⟨_, _, rfl, by decide, by decide, by decide⟩

theorem NestText.exists_cons {Value : List Char → Json → Prop} {cs : List Char} {v : Json}
    (h : NestText Value cs v) : ∃ c rest, cs = c :: rest ∧ Starts c := by
  cases h <;> exact ⟨_, _, rfl, by decide, by decide, by decide⟩

theorem ValueText.exists_cons [FloatReading] {depth : Nat} {cs : List Char} {v : Json}
    (h : ValueText depth cs v) : ∃ c rest, cs = c :: rest ∧ Starts c := by
  cases depth with
  | zero => exact ScalarText.exists_cons h
  | succ depth => exact h.elim ScalarText.exists_cons NestText.exists_cons

theorem MemberText.exists_cons {Value : List Char → Json → Prop} {cs : List Char}
    {member : String × Json} (h : MemberText Value cs member) :
    ∃ c rest, cs = c :: rest ∧ Starts c := by
  cases h
  exact ⟨_, _, rfl, by decide, by decide, by decide⟩

/-! The reader takes texts of the grammar only. -/

section Sound
variable {α : Type}

/-- Whatever is read is an item with blanks in front. -/
def ReadsOnly (Item : List Char → α → Prop) (read : List Char → Result (α × List Char)) : Prop :=
  ∀ ⦃cs a rest⦄, read cs = .ok (a, rest) →
    ∃ bs used, Blanks bs ∧ Item used a ∧ cs = bs ++ (used ++ rest)

theorem word_eq_ok_iff {value a : α} {expected cs rest : List Char} :
    word value expected cs = .ok (a, rest) ↔ value = a ∧ cs = expected ++ rest := by
  induction expected generalizing cs with
  | nil => simp [word]
  | cons e es ih =>
    cases cs with
    | nil => simp [word]
    | cons c tail =>
      rw [word]
      split_ifs with h
      · simp [ih, h]
      · simp [h]

theorem exists_text_of_seriesUpTo {close : Char} {Item : List Char → α → Prop}
    {read : List Char → Result (α × List Char)} (hread : ReadsOnly Item read) {n : Nat}
    {cs rest : List Char} {as : List α} (h : seriesUpTo close read n cs = .ok (as, rest)) :
    ∃ used, SeriesText close Item used as ∧ cs = used ++ rest := by
  induction n generalizing cs as with
  | zero => cases h
  | succ n ih =>
    simp only [seriesUpTo, bind_eq_ok_iff, Prod.exists] at h
    obtain ⟨a, tail, ha, h⟩ := h
    obtain ⟨bs, used, hbs, hused, rfl⟩ := hread ha
    obtain ⟨es, hes, htail⟩ := exists_blanks tail
    split at h
    next => cases h
    next c tail' hskip =>
      rw [hskip] at htail
      subst htail
      split_ifs at h with hclose hcomma
      · obtain ⟨rfl, rfl⟩ := Prod.mk.inj (Except.ok.inj h)
        subst hclose
        exact ⟨_, .last (.blanks hbs hused hes), by simp⟩
      · subst hcomma
        simp only [bind_eq_ok_iff, Prod.exists, pure_eq_ok_iff, Prod.mk.injEq] at h
        obtain ⟨as, _, has, rfl, rfl⟩ := h
        obtain ⟨used', hused', rfl⟩ := ih has
        exact ⟨_, .next (.blanks hbs hused hes) hused', by simp⟩

theorem Spaced.blanks_append {Item : List Char → α → Prop} {bs cs : List Char} {a : α}
    (hbs : Blanks bs) (h : Spaced Item cs a) : Spaced Item (bs ++ cs) a := by
  cases h with
  | blanks hbs' ha hes =>
    rw [← List.append_assoc]
    exact .blanks (blanks_append_iff.2 ⟨hbs, hbs'⟩) ha hes

theorem SeriesText.blanks_append {close : Char} {Item : List Char → α → Prop}
    {bs used : List Char} {as : List α} (hbs : Blanks bs) (h : SeriesText close Item used as) :
    SeriesText close Item (bs ++ used) as := by
  cases h with
  | last ha =>
    rw [← List.append_assoc]
    exact .last (ha.blanks_append hbs)
  | next ha htail =>
    rw [← List.append_assoc]
    exact .next (ha.blanks_append hbs) htail

theorem exists_text_of_series {close : Char} {Item : List Char → α → Prop}
    {read : List Char → Result (α × List Char)} (hread : ReadsOnly Item read) {limit : Nat}
    {cs rest : List Char} {as : List α} (h : series limit close read cs = .ok (as, rest)) :
    ∃ used, BodyText close Item used as ∧ cs = used ++ rest := by
  obtain ⟨bs, hbs, hcs⟩ := exists_blanks cs
  unfold series at h
  split at h
  next => cases h
  next c tail hskip =>
    rw [hskip] at hcs
    split_ifs at h with hclose
    · obtain ⟨rfl, rfl⟩ := Prod.mk.inj (Except.ok.inj h)
      exact ⟨_, .empty hbs, by rw [hcs, hclose]; simp⟩
    · obtain ⟨used, hused, htail⟩ := exists_text_of_seriesUpTo hread h
      exact ⟨_, .items (hused.blanks_append hbs), by rw [hcs, htail, List.append_assoc]⟩

theorem readsOnly_member {Value : List Char → Json → Prop}
    {read : List Char → Result (Json × List Char)} (hread : ReadsOnly Value read) (limit : Nat) :
    ReadsOnly (MemberText Value) (member limit read) := by
  intro cs a rest h
  obtain ⟨bs, hbs, hcs⟩ := exists_blanks cs
  unfold member at h
  split at h
  next tail hskip =>
    simp only [bind_eq_ok_iff, Prod.exists, stringRest_eq_ok_iff] at h
    obtain ⟨_, tail', ⟨ds, hds, rfl⟩, h⟩ := h
    obtain ⟨key, hkey, rfl⟩ := exists_text_of_stringUpTo hds
    obtain ⟨es, hes, htail⟩ := exists_blanks tail'
    split at h
    next tail'' hskip' =>
      simp only [bind_eq_ok_iff, Prod.exists, pure_eq_ok_iff, Prod.mk.injEq] at h
      obtain ⟨v, _, hv, rfl, rfl⟩ := h
      obtain ⟨fs, used, hfs, hused, rfl⟩ := hread hv
      rw [hskip'] at htail
      rw [hskip, htail] at hcs
      exact ⟨bs, _, hbs, .member hkey hes hfs hused, by simpa using hcs⟩
    next => cases h
  next => cases h

theorem readsOnly_value [FloatReading] (limit depth : Nat) :
    ReadsOnly (ValueText depth) (value limit depth) := by
  induction depth using Nat.strong_induction_on with
  | _ depth ih =>
    intro cs v rest h
    obtain ⟨bs, hbs, hcs⟩ := exists_blanks cs
    -- it is enough to find the text of the value after the blanks
    suffices hused : ∃ used, ValueText depth used v ∧ skipBlank cs = used ++ rest by
      obtain ⟨used, hused, hskip⟩ := hused
      exact ⟨bs, used, hbs, hused, by rw [← hskip, ← hcs]⟩
    unfold value at h
    split at h
    next => cases h
    next tail hskip =>
      obtain ⟨rfl, rfl⟩ := word_eq_ok_iff.1 h
      exact ⟨_, .scalar .null depth, hskip⟩
    next tail hskip =>
      obtain ⟨rfl, rfl⟩ := word_eq_ok_iff.1 h
      exact ⟨_, .scalar .yes depth, hskip⟩
    next tail hskip =>
      obtain ⟨rfl, rfl⟩ := word_eq_ok_iff.1 h
      exact ⟨_, .scalar .no depth, hskip⟩
    next tail hskip =>
      simp only [bind_eq_ok_iff, Prod.exists, stringRest_eq_ok_iff, pure_eq_ok_iff,
        Prod.mk.injEq] at h
      obtain ⟨_, _, ⟨ds, hds, rfl⟩, rfl, rfl⟩ := h
      obtain ⟨used, hused, rfl⟩ := exists_text_of_stringUpTo hds
      exact ⟨_, .scalar (.string hused) depth, hskip⟩
    next tail hskip =>
      cases depth with
      | zero => cases h
      | succ inner =>
        simp only [bind_eq_ok_iff, Prod.exists, pure_eq_ok_iff, Prod.mk.injEq] at h
        obtain ⟨items, _, hitems, rfl, rfl⟩ := h
        obtain ⟨used, hused, rfl⟩ := exists_text_of_series (ih inner (by omega)) hitems
        exact ⟨_, .inr (.array hused), hskip⟩
    next tail hskip =>
      cases depth with
      | zero => cases h
      | succ inner =>
        simp only [bind_eq_ok_iff, Prod.exists, pure_eq_ok_iff, Prod.mk.injEq] at h
        obtain ⟨members, _, hmembers, rfl, rfl⟩ := h
        have hmember := readsOnly_member (ih inner (by omega)) limit
        obtain ⟨used, hused, rfl⟩ := exists_text_of_series hmember hmembers
        exact ⟨_, .inr (.object hused), hskip⟩
    next c tail _ _ _ _ _ _ hskip =>
      split_ifs at h
      simp only [bind_eq_ok_iff, Prod.exists, pure_eq_ok_iff, Prod.mk.injEq] at h
      obtain ⟨n, _, hn, rfl, rfl⟩ := h
      obtain ⟨used, hused, htail⟩ := exists_spelling_of_number hn
      exact ⟨used, .scalar (.number hused) depth, by rw [hskip, htail]⟩

end Sound

/-! The reader takes every text of the grammar. -/

section Complete
variable {α : Type}

/-- Every item that is not too long is read, with the blanks in front of it. -/
def ReadsAll (limit : Nat) (Item : List Char → α → Prop)
    (read : List Char → Result (α × List Char)) : Prop :=
  ∀ ⦃bs used a rest⦄, Blanks bs → Item used a → used.length ≤ limit → EndsNumber rest →
    read (bs ++ (used ++ rest)) = .ok (a, rest)

theorem endsNumber_of_blank {c : Char} (h : isBlank c = true) (rest : List Char) :
    EndsNumber (c :: rest) := by
  simp only [isBlank, Bool.or_eq_true, decide_eq_true_eq] at h
  obtain ((rfl | rfl) | rfl) | rfl := h <;> simp [EndsNumber]

/-- Blanks and a punctuation mark end a number before them. -/
theorem endsNumber_blanks_append {es : List Char} (hes : Blanks es) {rest : List Char}
    (hrest : EndsNumber rest) : EndsNumber (es ++ rest) := by
  cases es with
  | nil => exact hrest
  | cons c es => exact endsNumber_of_blank (hes c List.mem_cons_self) _

theorem endsNumber_of_blanks {es : List Char} (hes : Blanks es) : EndsNumber es := by
  have h : EndsNumber (es ++ []) := endsNumber_blanks_append hes (by simp [EndsNumber])
  rwa [List.append_nil] at h

theorem SeriesText.read {close : Char} (hclose : close = ']' ∨ close = '}') {limit : Nat}
    {Item : List Char → α → Prop} {read : List Char → Result (α × List Char)}
    (hread : ReadsAll limit Item read) {used : List Char} {as : List α}
    (h : SeriesText close Item used as) (hlimit : used.length ≤ limit) {n : Nat}
    (hn : used.length ≤ n) (rest : List Char) :
    seriesUpTo close read n (used ++ rest) = .ok (as, rest) := by
  have hblank : isBlank close = false := by rcases hclose with rfl | rfl <;> rfl
  have hends (rest : List Char) : EndsNumber (close :: rest) := by
    rcases hclose with rfl | rfl <;> simp [EndsNumber]
  induction h generalizing n with
  | @last cs a h =>
    obtain ⟨hbs, ha, hes⟩ := h
    simp only [List.length_append, List.length_cons, List.length_nil] at hlimit hn
    obtain ⟨n, rfl⟩ : ∃ k, n = k + 1 := ⟨n - 1, by omega⟩
    have hitem := hread hbs ha (by omega) (endsNumber_blanks_append hes (hends rest))
    simp only [List.append_assoc, List.singleton_append, seriesUpTo, hitem, ok_bind,
      skipBlank_append hes, skipBlank_cons hblank, if_true]
  | @next cs tail a as h htail ih =>
    obtain ⟨hbs, ha, hes⟩ := h
    simp only [List.length_append, List.length_cons] at hlimit hn
    obtain ⟨n, rfl⟩ : ∃ k, n = k + 1 := ⟨n - 1, by omega⟩
    have hcomma : EndsNumber (',' :: (tail ++ rest)) := by simp [EndsNumber]
    have hne : ',' ≠ close := by rcases hclose with rfl | rfl <;> decide
    have hitem := hread hbs ha (by omega) (endsNumber_blanks_append hes hcomma)
    have htails := ih (by omega) (show _ ≤ n by omega)
    simp only [List.append_assoc, List.cons_append, seriesUpTo, hitem, ok_bind,
      skipBlank_append hes, skipBlank_cons (show isBlank ',' = false from rfl), if_neg hne,
      if_true, htails]
    rfl

theorem Spaced.exists_start {Item : List Char → α → Prop}
    (hstarts : ∀ used a, Item used a → ∃ c rest, used = c :: rest ∧ Starts c)
    {cs : List Char} {a : α} (h : Spaced Item cs a) :
    ∃ bs c rest, Blanks bs ∧ cs = bs ++ c :: rest ∧ Starts c ∧ Spaced Item (c :: rest) a := by
  cases h with
  | @blanks bs used es _ hbs ha hes =>
    obtain ⟨c, tail, rfl, hc⟩ := hstarts used a ha
    have hspaced : Spaced Item ([] ++ (c :: tail ++ es)) a := .blanks blanks_nil ha hes
    exact ⟨bs, c, tail ++ es, hbs, rfl, hc, hspaced⟩

/-- The blanks in front of a series can be left out. -/
theorem SeriesText.exists_start {close : Char} {Item : List Char → α → Prop}
    (hstarts : ∀ used a, Item used a → ∃ c rest, used = c :: rest ∧ Starts c)
    {used : List Char} {as : List α} (h : SeriesText close Item used as) :
    ∃ bs c rest, Blanks bs ∧ used = bs ++ c :: rest ∧ Starts c ∧
      SeriesText close Item (c :: rest) as := by
  cases h with
  | last ha =>
    obtain ⟨bs, c, rest, hbs, rfl, hc, ha⟩ := ha.exists_start hstarts
    exact ⟨bs, c, _, hbs, by simp, hc, .last ha⟩
  | next ha htail =>
    obtain ⟨bs, c, rest, hbs, rfl, hc, ha⟩ := ha.exists_start hstarts
    exact ⟨bs, c, _, hbs, by simp, hc, .next ha htail⟩

theorem BodyText.read {close : Char} (hclose : close = ']' ∨ close = '}') {limit : Nat}
    {Item : List Char → α → Prop} {read : List Char → Result (α × List Char)}
    (hread : ReadsAll limit Item read)
    (hstarts : ∀ used a, Item used a → ∃ c rest, used = c :: rest ∧ Starts c)
    {used : List Char} {as : List α} (h : BodyText close Item used as)
    (hlimit : used.length ≤ limit) (rest : List Char) :
    series limit close read (used ++ rest) = .ok (as, rest) := by
  have hblank : isBlank close = false := by rcases hclose with rfl | rfl <;> rfl
  cases h with
  | @empty bs hbs =>
    simp only [List.append_assoc, List.singleton_append, series, skipBlank_append hbs,
      skipBlank_cons hblank, if_true]
  | items h =>
    obtain ⟨bs, c, tail, hbs, rfl, hc, hseries⟩ := h.exists_start hstarts
    have hne : c ≠ close := by
      rcases hclose with rfl | rfl
      · exact hc.2.1
      · exact hc.2.2
    rw [List.length_append] at hlimit
    have hitems := hseries.read hclose hread (by omega) (show _ ≤ limit by omega) rest
    simp only [List.append_assoc, List.cons_append, series, skipBlank_append hbs,
      skipBlank_cons (isBlank_of_text hc.1), if_neg hne]
    exact hitems

theorem readsAll_member {Value : List Char → Json → Prop}
    {read : List Char → Result (Json × List Char)} {limit : Nat}
    (hread : ReadsAll limit Value read) :
    ReadsAll limit (MemberText Value) (member limit read) := by
  intro bs used a rest hbs ha hlimit hrest
  cases ha with
  | @member key ds es fs used v hkey hes hfs hv =>
    simp only [List.length_append, List.length_cons] at hlimit
    have hkeyRead : stringRest limit (key ++ (es ++ ':' :: (fs ++ (used ++ rest)))) =
        .ok (String.ofList ds, es ++ ':' :: (fs ++ (used ++ rest))) :=
      stringRest_eq_ok_iff.2 ⟨ds, hkey.read (by omega) _, rfl⟩
    have hvalue := hread hfs hv (by omega) hrest
    simp only [List.append_assoc, List.cons_append, Reader.member, skipBlank_append hbs,
      skipBlank_cons (show isBlank '"' = false from rfl), hkeyRead, ok_bind, skipBlank_append hes,
      skipBlank_cons (show isBlank ':' = false from rfl), hvalue]
    rfl

/-- A value that starts with none of the other tokens is a number. -/
theorem value_number [FloatReading] {limit depth : Nat} {c : Char} (hc : c = '-' ∨ c.isDigit = true)
    (rest : List Char) : value limit depth (c :: rest) =
      (number (c :: rest)).map fun read => (.number read.1, read.2) := by
  have hblank : isBlank c = false := by
    rcases hc with rfl | hdigit
    · rfl
    · exact isBlank_of_text (starts_of_isDigit hdigit).1
  have hother {x : Char} (hx : x ≠ '-') (hdigit : x.isDigit = false) : c ≠ x := by
    rintro rfl
    rcases hc with hminus | h
    · exact hx hminus
    · rw [hdigit] at h
      cases h
  unfold value
  rw [skipBlank_cons hblank]
  split
  next h => cases h
  next h => exact absurd (List.cons.inj h).1 (hother (by decide) rfl)
  next h => exact absurd (List.cons.inj h).1 (hother (by decide) rfl)
  next h => exact absurd (List.cons.inj h).1 (hother (by decide) rfl)
  next h => exact absurd (List.cons.inj h).1 (hother (by decide) rfl)
  next h => exact absurd (List.cons.inj h).1 (hother (by decide) rfl)
  next h => exact absurd (List.cons.inj h).1 (hother (by decide) rfl)
  next c' rest' _ _ _ _ _ _ h =>
    obtain ⟨rfl, rfl⟩ := List.cons.inj h
    rw [if_pos hc]
    cases number (c :: rest) <;> rfl

theorem value_blanks [FloatReading] {limit depth : Nat} {bs : List Char} (hbs : Blanks bs)
    (cs : List Char) :
    value limit depth (bs ++ cs) = value limit depth cs := by
  unfold value
  rw [skipBlank_append hbs]

theorem ScalarText.read [FloatReading] {used : List Char} {v : Json} (h : ScalarText used v)
    {limit : Nat}
    (hlimit : used.length ≤ limit) (depth : Nat) {rest : List Char} (hrest : EndsNumber rest) :
    value limit depth (used ++ rest) = .ok (v, rest) := by
  cases h with
  | number h =>
    obtain ⟨c, tail, hused, hc⟩ := h.exists_cons
    have hread := h.read hrest
    rw [hused, List.cons_append] at hread ⊢
    rw [value_number hc, hread]
    rfl
  | @string cs ds h =>
    simp only [List.length_cons] at hlimit
    have hread : stringRest limit (cs ++ rest) = .ok (String.ofList ds, rest) :=
      stringRest_eq_ok_iff.2 ⟨ds, h.read (by omega) rest, rfl⟩
    unfold value
    simp only [List.cons_append, skipBlank_cons (show isBlank '"' = false from rfl), hread, ok_bind]
    rfl
  | _ =>
    unfold value
    simp [skipBlank_cons, isBlank, word]

theorem readsAll_value [FloatReading] (limit depth : Nat) :
    ReadsAll limit (ValueText depth) (value limit depth) := by
  induction depth with
  | zero =>
    intro bs used v rest hbs hv hlimit hrest
    rw [value_blanks hbs]
    exact ScalarText.read hv hlimit 0 hrest
  | succ depth ih =>
    intro bs used v rest hbs hv hlimit hrest
    rw [value_blanks hbs]
    rcases hv with hscalar | hnest
    · exact hscalar.read hlimit _ hrest
    · cases hnest with
      | @array cs items h =>
        simp only [List.length_cons] at hlimit
        have hitems := h.read (.inl rfl) ih (fun _ _ => ValueText.exists_cons) (by omega) rest
        unfold value
        simp only [List.cons_append, skipBlank_cons (show isBlank '[' = false from rfl), hitems,
          ok_bind]
        rfl
      | @object cs members h =>
        simp only [List.length_cons] at hlimit
        have hmembers := h.read (.inr rfl) (readsAll_member ih)
          (fun _ _ => MemberText.exists_cons) (by omega) rest
        unfold value
        simp only [List.cons_append, skipBlank_cons (show isBlank '\x7b' = false from rfl),
          hmembers, ok_bind]
        rfl

end Complete

/-! More depth, and the last character. -/

section Containers
variable {α : Type} {close : Char} {Item Item' : List Char → α → Prop}

theorem Spaced.imp (himp : ∀ used a, Item used a → Item' used a) {cs : List Char} {a : α}
    (h : Spaced Item cs a) : Spaced Item' cs a := by
  cases h with
  | blanks hbs ha hes => exact .blanks hbs (himp _ _ ha) hes

theorem SeriesText.imp (himp : ∀ used a, Item used a → Item' used a) {used : List Char}
    {as : List α} (h : SeriesText close Item used as) : SeriesText close Item' used as := by
  induction h with
  | last ha => exact .last (ha.imp himp)
  | next ha _ ih => exact .next (ha.imp himp) ih

theorem BodyText.imp (himp : ∀ used a, Item used a → Item' used a) {used : List Char}
    {as : List α} (h : BodyText close Item used as) : BodyText close Item' used as := by
  cases h with
  | empty hbs => exact .empty hbs
  | items h => exact .items (h.imp himp)

theorem SeriesText.getLast {used : List Char} {as : List α} (h : SeriesText close Item used as) :
    used.getLast? = some close := by
  induction h with
  | last => simp [List.getLast?_append]
  | next _ _ ih => simp [List.getLast?_append, List.getLast?_cons, ih]

theorem BodyText.getLast {used : List Char} {as : List α} (h : BodyText close Item used as) :
    used.getLast? = some close := by
  cases h with
  | empty => simp [List.getLast?_append]
  | items h => exact h.getLast

end Containers

theorem MemberText.imp {Value Value' : List Char → Json → Prop}
    (himp : ∀ used v, Value used v → Value' used v) {used : List Char} {member : String × Json}
    (h : MemberText Value used member) : MemberText Value' used member := by
  cases h with
  | member hkey hbs hes hv => exact .member hkey hbs hes (himp _ _ hv)

theorem NestText.imp {Value Value' : List Char → Json → Prop}
    (himp : ∀ used v, Value used v → Value' used v) {used : List Char} {v : Json}
    (h : NestText Value used v) : NestText Value' used v := by
  cases h with
  | array h => exact .array (h.imp himp)
  | object h => exact .object (h.imp fun _ _ => MemberText.imp himp)

theorem ValueText.mono [FloatReading] {depth depth' : Nat} (hdepth : depth ≤ depth')
    {used : List Char} {v : Json}
    (h : ValueText depth used v) : ValueText depth' used v := by
  induction depth generalizing depth' used v with
  | zero => exact .scalar h depth'
  | succ depth ih =>
    obtain ⟨depth', rfl⟩ : ∃ k, depth' = k + 1 := ⟨depth' - 1, by omega⟩
    exact h.imp_right (NestText.imp fun _ _ => ih (by omega))

theorem ScalarText.getLast_not_blank [FloatReading] {used : List Char} {v : Json}
    (h : ScalarText used v) :
    ∀ c ∈ used.getLast?, isBlank c = false := by
  cases h with
  | number h =>
    intro c hc
    exact isBlank_of_text (isBlank_of_isNumberChar (h.numberChars c (List.mem_of_mem_getLast? hc)))
  | string h => simp [List.getLast?_cons, h.getLast, isBlank]
  | _ => simp [isBlank]

/-- The blanks after a value do not belong to it. -/
theorem ValueText.getLast_not_blank [FloatReading] {depth : Nat} {used : List Char} {v : Json}
    (h : ValueText depth used v) : ∀ c ∈ used.getLast?, isBlank c = false := by
  cases depth with
  | zero => exact ScalarText.getLast_not_blank h
  | succ depth =>
    rcases h with h | h
    · exact h.getLast_not_blank
    · cases h with
      | array h => simp [List.getLast?_cons, h.getLast, isBlank]
      | object h => simp [List.getLast?_cons, h.getLast, isBlank]

/-- A text that is one value with blanks around it. -/
def WholeText [FloatReading] (depth : Nat) : List Char → Json → Prop := Spaced (ValueText depth)

theorem WholeText.mono [FloatReading] {depth depth' : Nat} (hdepth : depth ≤ depth')
    {cs : List Char} {v : Json}
    (h : WholeText depth cs v) : WholeText depth' cs v :=
  Spaced.imp (fun _ _ => ValueText.mono hdepth) h

/-- The reader of values takes a text as a whole when blanks are all that it leaves. -/
theorem wholeText_iff [FloatReading] {depth : Nat} {cs : List Char} {v : Json} :
    WholeText depth cs v ↔
    ∃ rest, value (cs.length + 1) depth cs = .ok (v, rest) ∧ skipBlank rest = [] := by
  constructor
  · intro h
    cases h with
    | @blanks bs used es _ hbs hv hes =>
      have hlength : used.length ≤ (bs ++ (used ++ es)).length + 1 := by
        simp only [List.length_append]
        omega
      exact ⟨es, readsAll_value _ _ hbs hv hlength (endsNumber_of_blanks hes),
        skipBlank_eq_nil_iff.2 hes⟩
  · intro h
    obtain ⟨rest, hread, hrest⟩ := h
    obtain ⟨bs, used, hbs, hused, hcs⟩ := readsOnly_value _ _ hread
    rw [hcs]
    exact .blanks hbs hused (skipBlank_eq_nil_iff.1 hrest)

end Reader

/-- A text is read when it is a value of limited depth with blanks around it. -/
theorem read_eq_ok_iff [FloatReading] {text : String} {v : Json} :
    read text = .ok v ↔ Reader.WholeText maxDepth text.toList v := by
  simp only [read, bind_eq_ok_iff, Prod.exists, Reader.wholeText_iff]
  constructor
  · intro h
    obtain ⟨v', rest, hread, h⟩ := h
    split_ifs at h with hrest
    obtain rfl := Except.ok.inj h
    exact ⟨rest, hread, hrest⟩
  · intro h
    obtain ⟨rest, hread, hrest⟩ := h
    exact ⟨v, rest, hread, if_pos hrest⟩

end ChangeSieve.Json
