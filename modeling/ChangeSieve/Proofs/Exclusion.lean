import ChangeSieve.Proofs.Absence
import ChangeSieve.Proofs.RuleLists

/-!
Excluded literals and presence. Where a record has a value to compare, `anything-but` holds exactly
when equality with its literals does not; elsewhere neither holds. The two presence rules split all
positions.
-/
namespace ChangeSieve

/-- A position is seen as present when the record has something there. -/
theorem Subject.isPresent_ofRecord? (part? : Option Record) :
    (ofRecord? part?).isPresent = part?.isSome := by
  cases part? with
  | none => rfl
  | some part =>
    cases part with
    | typed a =>
      cases a with
      | number text =>
        change (ofNumber? (Attribute.numberOfText? text)).isPresent = true
        cases Attribute.numberOfText? text <;> rfl
      | null flag => cases flag <;> rfl
      | _ => rfl
    | _ => rfl

/-- A null or a scalar is seen, so that there is something to compare. -/
def Subject.Comparable (subject : Subject) : Prop :=
  subject = .null ∨ ∃ value, subject = .scalar value

/-- What was read and can be compared is seen as a null or a scalar. -/
theorem Record.comparable_of_decode {v : Json} {part : Record} (h : decode v = .ok part)
    (hpart : ¬part.Incomparable) : (Subject.ofRecord part).Comparable := by
  cases part with
  | null => exact .inl rfl
  | list items => exact absurd (.list items) hpart
  | object fields => exact absurd (.object fields) hpart
  | typed a =>
    cases a with
    | number text =>
      -- Only the texts of numbers are read, so that the text is never left without a value.
      obtain ⟨d, hd, _⟩ := exists_number_of_decode h
      exact .inr ⟨.number d, by simp [Subject.ofRecord, Subject.ofAttribute, hd, Subject.ofNumber?]⟩
    | stringSet members => exact absurd (.stringSet members) hpart
    | numberSet members => exact absurd (.numberSet members) hpart
    | binarySet members => exact absurd (.binarySet members) hpart
    | list items => exact absurd (.typedList items) hpart
    | map entries => exact absurd (.typedMap entries) hpart
    | null flag =>
      cases flag with
      | true => exact .inl rfl
      | false => exact absurd .notNull hpart
    | _ => exact .inr ⟨_, rfl⟩
  | _ => exact .inr ⟨_, rfl⟩

namespace Subject
variable {subject : Subject} {items : List Json} {equal other : Bool}

theorem EqualsOneOf.comparable (h : subject.EqualsOneOf items) : subject.Comparable := by
  obtain ⟨_, _, _, _, value, hvalue, _⟩ := h
  exact .inr ⟨value, hvalue⟩

theorem not_comparable_absent : ¬Subject.absent.Comparable := by
  rintro (h | ⟨_, h⟩) <;> cases h

theorem not_comparable_unsupported : ¬Subject.unsupported.Comparable := by
  rintro (h | ⟨_, h⟩) <;> cases h

/-- Neither equality nor exclusion holds where there is nothing to compare. -/
theorem neither_of_not_comparable (hequal : equal = true ↔ subject.EqualsOneOf items)
    (hother : other = true ↔ subject.Comparable ∧ ¬subject.EqualsOneOf items)
    (h : ¬subject.Comparable) : equal = false ∧ other = false := by
  constructor
  · apply eq_false_of_ne_true
    intro hholds
    exact h (hequal.1 hholds).comparable
  · apply eq_false_of_ne_true
    intro hholds
    exact h (hother.1 hholds).1

/-- Exactly one of equality and exclusion holds where there is something to compare. -/
theorem other_eq_not_equal (hequal : equal = true ↔ subject.EqualsOneOf items)
    (hother : other = true ↔ subject.Comparable ∧ ¬subject.EqualsOneOf items)
    (h : subject.Comparable) : other = !equal := by
  have hiff : other = true ↔ ¬equal = true := by
    rw [hother, hequal]
    exact and_iff_right h
  rw [Bool.eq_iff_iff, hiff, Bool.not_eq_true, Bool.not_eq_true']

end Subject

namespace Rule
open Outcome
variable {subject : Subject} {path : List String} {items : List Json}

theorem holds_anythingBut_iff {literals : List Literal} :
    (anythingBut literals).holds subject = true ↔ subject = .null ∨
      ∃ value, subject = .scalar value ∧ ∀ literal ∈ literals, literal.equals value = false := by
  cases subject <;> simp [holds]

/-- Excluded literals are none that the value is equal to. -/
theorem holds_anythingBut_iff_not_equalsOneOf {literals : List Literal}
    (h : List.Forall₂ Literal.Spelling items literals) :
    (anythingBut literals).holds subject = true ↔
      subject.Comparable ∧ ¬subject.EqualsOneOf items := by
  rw [holds_anythingBut_iff]
  constructor
  · rintro (rfl | ⟨value, rfl, hnone⟩)
    · refine ⟨.inl rfl, ?_⟩
      rintro ⟨_, _, _, _, _, ⟨⟩, _⟩
    · refine ⟨.inr ⟨value, rfl⟩, ?_⟩
      rintro ⟨item, hitem, literal, hliteral, _, ⟨⟩, hequal⟩
      obtain ⟨literal', hmem, hliteral'⟩ := exists_right_of_forall₂ h hitem
      rw [hliteral.unique hliteral', hnone literal' hmem] at hequal
      cases hequal
  · rintro ⟨hcomparable, hnone⟩
    apply hcomparable.imp_right
    rintro ⟨value, rfl⟩
    refine ⟨value, rfl, fun literal hliteral => eq_false_of_ne_true fun hequal => hnone ?_⟩
    obtain ⟨item, hitem, hspelling⟩ := exists_left_of_forall₂ h hliteral
    exact ⟨item, hitem, literal, hspelling, value, rfl, hequal⟩

theorem decodeList_singleton {v : Json} {rule : Rule} (h : rule.Spelling v) :
    decodeList path [v] = .ok [rule] :=
  decodeList_eq_ok_iff.2 ⟨by simp, .cons h .nil⟩

/-- A list of literals to exclude, and a single literal without a list. -/
theorem exists_excluded (hne : items ≠ []) (hitems : ∀ item ∈ items, IsLiteral item) :
    ∃ literals, List.Forall₂ Literal.Spelling items literals ∧
      (Rule.anythingBut literals).Spelling (.object [("anything-but", .array items)]) ∧
      ∀ item, items = [item] →
        (Rule.anythingBut literals).Spelling (.object [("anything-but", item)]) := by
  obtain ⟨literals, h⟩ := (exists_forall₂_iff fun _ _ => isLiteral_iff).2 hitems
  refine ⟨literals, h, .named (.excludedList hne h), ?_⟩
  rintro item rfl
  cases h with
  | cons hliteral hrest =>
    cases hrest
    exact .named (.excluded hliteral)

theorem holds_presence (wanted : Bool) (part? : Option Record) :
    (Filter.rules [presence wanted]).holds (Subject.ofRecord? part?) = (part?.isSome == wanted) := by
  rw [← Subject.isPresent_ofRecord?]
  exact Bool.or_false _

/-- The lists of rules on literals: equality with one of them, and the exclusion of all. -/
theorem exists_complementary_rules (hne : items ≠ []) (hitems : ∀ item ∈ items, IsLiteral item)
    (path : List String) :
    ∃ equal other : List Rule,
      decodeList path items = .ok equal ∧
      decodeList path [.object [("anything-but", .array items)]] = .ok other ∧
      (∀ item, items = [item] → decodeList path [.object [("anything-but", item)]] = .ok other) ∧
      ∀ subject, ((Filter.rules equal).holds subject = true ↔ subject.EqualsOneOf items) ∧
        ((Filter.rules other).holds subject = true ↔
          subject.Comparable ∧ ¬subject.EqualsOneOf items) := by
  obtain ⟨equal, hequal, hholds⟩ := Pattern.exists_literal_rules hne hitems
  obtain ⟨literals, hliterals, hlist, hsingle⟩ := exists_excluded hne hitems
  have hread : decodeList path items = .ok equal := by
    cases hequal with
    | rules _ h => exact decodeList_eq_ok_iff.2 ⟨hne, h⟩
  refine ⟨equal, [.anythingBut literals], hread, decodeList_singleton hlist,
    fun item h => decodeList_singleton (hsingle item h), fun subject => ⟨hholds subject, ?_⟩⟩
  simp only [Filter.holds_rules_iff, List.mem_singleton, exists_eq_left]
  exact holds_anythingBut_iff_not_equalsOneOf hliterals

end Rule

/--
The rules on a list of literals and on presence, at every position of every record that was read.
Nothing that cannot be compared equals a literal or differs from all of them. Of the positions with
a value to compare, `anything-but` takes exactly those that equality leaves. One of the two presence
rules holds at any position.
-/
theorem Rule.excluded_complements_literals {items : List Json} (hne : items ≠ [])
    (hitems : ∀ item ∈ items, IsLiteral item) (path : List String) :
    ∃ equal other present absent : List Rule,
      decodeList path items = .ok equal ∧
      decodeList path [.object [("anything-but", .array items)]] = .ok other ∧
      (∀ item, items = [item] → decodeList path [.object [("anything-but", item)]] = .ok other) ∧
      decodeList path [.object [("exists", .boolean true)]] = .ok present ∧
      decodeList path [.object [("exists", .boolean false)]] = .ok absent ∧
      ∀ v r, Record.decode v = .ok r → ∀ keys,
        let part? := r.follow? keys
        let holds (rules : List Rule) := (Filter.rules rules).holds (Subject.ofRecord? part?)
        (part? = none → holds equal = false ∧ holds other = false) ∧
        (∀ part, part? = some part → part.Incomparable →
          holds equal = false ∧ holds other = false) ∧
        (∀ part, part? = some part → ¬part.Incomparable → holds other = !holds equal) ∧
        (holds equal = true ↔ (Subject.ofRecord? part?).EqualsOneOf items) ∧
        holds present = part?.isSome ∧ holds absent = !holds present := by
  obtain ⟨equal, other, hequal, hother, hsingle, hholds⟩ := exists_complementary_rules hne hitems path
  refine ⟨equal, other, [.presence true], [.presence false], hequal, hother, hsingle,
    decodeList_singleton (.named (.presence true)),
    decodeList_singleton (.named (.presence false)), fun v r hr keys => ?_⟩
  intro part? holds
  obtain ⟨hequals, hexcludes⟩ := hholds (Subject.ofRecord? part?)
  have hneither := Subject.neither_of_not_comparable hequals hexcludes
  have hpresence (wanted : Bool) : holds [.presence wanted] = (part?.isSome == wanted) :=
    holds_presence wanted part?
  refine ⟨?_, ?_, ?_, hequals, ?_, ?_⟩
  · intro hnone
    have hsubject : Subject.ofRecord? part? = .absent := by
      rw [hnone]
      rfl
    exact hneither (hsubject ▸ Subject.not_comparable_absent)
  · intro part hpart hincomparable
    have hsubject : Subject.ofRecord? part? = .unsupported := by
      rw [hpart]
      exact Subject.ofRecord_of_incomparable hincomparable
    exact hneither (hsubject ▸ Subject.not_comparable_unsupported)
  · intro part hpart hcomparable
    obtain ⟨w, hw⟩ := Record.exists_decode_of_follow? hr hpart
    apply Subject.other_eq_not_equal hequals hexcludes
    rw [hpart]
    exact Record.comparable_of_decode hw hcomparable
  · rw [hpresence, beq_true]
  · rw [hpresence, hpresence, beq_true, beq_false]

/-- The empty text and a number, at bytes, at a list and at nothing. -/
theorem Rule.excluded_of_empty_text_and_number :
    let items := [Json.string "", .number (.integer 1 (by decide))]
    let v := Json.object [("b", .object [("B", .string "")]), ("l", .object [("L", .array [])])]
    ∃ equal other r, decodeList [] items = .ok equal ∧
      decodeList [] [.object [("anything-but", .array items)]] = .ok other ∧
      Record.decode v = .ok r ∧
      (Filter.rules other).holds (Subject.ofRecord? (r.follow? ["b"])) =
        !(Filter.rules equal).holds (Subject.ofRecord? (r.follow? ["b"])) ∧
      (Filter.rules other).holds (Subject.ofRecord? (r.follow? ["l"])) = false ∧
      (Filter.rules other).holds (Subject.ofRecord? (r.follow? ["b", "x"])) = false := by
  intro items v
  have hitems : ∀ item ∈ items, IsLiteral item := by
    intro item hitem
    rcases List.mem_cons.1 hitem with rfl | hitem
    · exact .inl rfl
    · exact .inr (.inl (List.mem_singleton.1 hitem ▸ rfl))
  have hr : Record.decode v =
      .ok (.object [("b", .typed (.binary [])), ("l", .typed (.list []))]) := rfl
  obtain ⟨equal, other, _, _, hequal, hother, _, _, _, hall⟩ :=
    excluded_complements_literals (List.cons_ne_nil _ _) hitems []
  have hbytes := (hall v _ hr ["b"]).2.2.1 _ rfl (by rintro ⟨⟩)
  have hlist := (hall v _ hr ["l"]).2.1 _ rfl (.typedList [])
  have hnone := (hall v _ hr ["b", "x"]).1 rfl
  exact ⟨equal, other, _, hequal, hother, hr, hbytes, hlist.2, hnone.2⟩

end ChangeSieve
