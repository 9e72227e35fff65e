import ChangeSieve.Proofs.RuleLists

/-!
Numeric rules. Every number of a record that was read is finite, and so is every bound. The five
operators therefore compare places on the number line, where of two numbers one is the lesser or both
are the same.
-/
namespace ChangeSieve
open Outcome

/-! Places on the number line. -/

def Operator.compares : Operator → Int → Int → Bool
  | .equal, x, y => x == y
  | .less, x, y => x < y
  | .atMost, x, y => x ≤ y
  | .greater, x, y => y < x
  | .atLeast, x, y => y ≤ x

namespace Double
variable {a b c : Double} {x y : Int}

theorem exists_order_of_isFinite (h : a.isFinite = true) : ∃ x, a.order = some x := by
  cases a with
  | finite f => exact ⟨f.order, rfl⟩
  | _ => cases h

/-- Only NaN has no place, and what is related has one. -/
theorem related_eq_true_iff {holds : Int → Int → Bool} :
    related holds a b = true ↔
      ∃ x y, a.order = some x ∧ b.order = some y ∧ holds x y = true := by
  unfold related
  cases a.order <;> cases b.order <;> simp

/-- Relations pass on through a number in the middle as they do through its place. -/
theorem related_trans {first second both : Int → Int → Bool}
    (hplaces : ∀ x y z, first x y = true → second y z = true → both x z = true)
    (hab : related first a b = true) (hbc : related second b c = true) :
    related both a c = true := by
  obtain ⟨x, y, ha, hb, hxy⟩ := related_eq_true_iff.1 hab
  obtain ⟨y', z, hb', hc, hyz⟩ := related_eq_true_iff.1 hbc
  obtain rfl : y = y' := Option.some.inj (hb.symm.trans hb')
  exact related_eq_true_iff.2 ⟨x, z, ha, hc, hplaces x y z hxy hyz⟩

theorem less_of_less_of_atMost (hab : a.less b = true) (hbc : b.atMost c = true) :
    a.less c = true := by
  refine related_trans (fun x y z hxy hyz => ?_) hab hbc
  simp only [decide_eq_true_eq] at *
  exact lt_of_lt_of_le hxy hyz

theorem less_of_atMost_of_less (hab : a.atMost b = true) (hbc : b.less c = true) :
    a.less c = true := by
  refine related_trans (fun x y z hxy hyz => ?_) hab hbc
  simp only [decide_eq_true_eq] at *
  exact lt_of_le_of_lt hxy hyz

end Double

namespace Operator
variable {a b : Double} {x y : Int}

theorem relates_eq_compares (op : Operator) (ha : a.order = some x) (hb : b.order = some y) :
    op.relates a b = op.compares x y := by
  cases op <;>
    simp only [relates, Double.equal, Double.less, Double.atMost, Double.related, ha, hb, compares]

/-- Of two places exactly one is the lesser, or they are the same. -/
theorem countP_compares (x y : Int) :
    [Operator.less, .equal, .greater].countP (fun op => op.compares x y) = 1 := by
  rcases lt_trichotomy x y with h | rfl | h
  · simp [compares, h, h.ne, h.le]
  · simp [compares]
  · simp [compares, h, h.ne', h.le]

theorem compares_atMost (x y : Int) :
    Operator.atMost.compares x y = !Operator.greater.compares x y := by
  simp only [compares, ← decide_not, not_lt]

theorem compares_atLeast (x y : Int) :
    Operator.atLeast.compares x y = !Operator.less.compares x y := by
  simp only [compares, ← decide_not, not_lt]

/-- The operators on two finite numbers. -/
theorem relates_totally (ha : a.isFinite = true) (hb : b.isFinite = true) :
    [Operator.less, .equal, .greater].countP (fun op => op.relates a b) = 1 ∧
      Operator.atMost.relates a b = !Operator.greater.relates a b ∧
      Operator.atLeast.relates a b = !Operator.less.relates a b := by
  obtain ⟨x, hx⟩ := Double.exists_order_of_isFinite ha
  obtain ⟨y, hy⟩ := Double.exists_order_of_isFinite hb
  simp only [relates_eq_compares _ hx hy]
  exact ⟨countP_compares x y, compares_atMost x y, compares_atLeast x y⟩

end Operator

/-! Numbers of records. -/

namespace Record

def IsNumeric (r : Record) : Prop :=
  (∃ n : Number, r = .number n) ∨ ∃ text, r = .typed (.number text)

/-- A number that was read is seen as a finite number. -/
theorem exists_finite_of_isNumeric {v : Json} {r : Record} (hread : decode v = .ok r)
    (h : r.IsNumeric) : ∃ f, Subject.ofRecord r = .scalar (.number (.finite f)) := by
  have hsubject : ∃ d, Subject.ofRecord r = .scalar (.number d) ∧ d.isFinite = true := by
    rcases h with ⟨n, rfl⟩ | ⟨text, rfl⟩
    · exact ⟨n.toDouble, rfl, n.toDouble_isFinite⟩
    · obtain ⟨d, hd, hfinite⟩ := exists_number_of_decode hread
      exact ⟨d, Subject.ofRecord_eq_scalar_iff.2 (.inl ⟨text, rfl, hd⟩), hfinite⟩
  obtain ⟨d, hd, hfinite⟩ := hsubject
  cases d with
  | finite f => exact ⟨f, hd⟩
  | _ => cases hfinite

theorem isNumeric_of_ofRecord {r : Record} {d : Double}
    (h : Subject.ofRecord r = .scalar (.number d)) : r.IsNumeric := by
  rcases Subject.ofRecord_eq_scalar_iff.1 h with ⟨text, htext, _⟩ | ⟨n, hn, _⟩
  · exact .inr ⟨text, htext⟩
  · exact .inl ⟨n, hn⟩

end Record

/-! The rules. -/

namespace Rule
variable {subject : Subject} {op op' : Operator} {c c' : Number}

def boundJson (op : Operator) (c : Number) : Json :=
  .object [("numeric", .array [.string op.symbol, .number c])]

def boundsJson (op : Operator) (c : Number) (op' : Operator) (c' : Number) : Json :=
  .object [("numeric", .array [.string op.symbol, .number c, .string op'.symbol, .number c'])]

def bound (op : Operator) (c : Number) : Rule := .numeric (.single ⟨op, c.toDouble⟩)

def bounds (op : Operator) (c : Number) (op' : Operator) (c' : Number) : Rule :=
  .numeric (.range ⟨op, c.toDouble⟩ ⟨op', c'.toDouble⟩)

theorem decode_boundJson (path : List String) (op : Operator) (c : Number) :
    decode path (boundJson op c) = .ok (bound op c) :=
  decode_eq_ok_iff.2 (.named (.single op c))

theorem decode_boundsJson (path : List String) (op : Operator) (c : Number) (op' : Operator)
    (c' : Number) : decode path (boundsJson op c op' c') = .ok (bounds op c op' c') :=
  decode_eq_ok_iff.2 (.named (.range op op' c c'))

theorem holds_bound_iff :
    (bound op c).holds subject = true ↔
      ∃ d, subject = .scalar (.number d) ∧ op.relates d c.toDouble = true :=
  holds_single_iff

/-- Two bounds hold where each of them does. -/
theorem holds_bounds (op : Operator) (c : Number) (op' : Operator) (c' : Number)
    (subject : Subject) : (bounds op c op' c').holds subject =
      ((bound op c).holds subject && (bound op' c').holds subject) := by
  cases subject with
  | scalar value => cases value <;> rfl
  | _ => rfl

/-- A greater upper bound and a lesser lower bound let no less through. -/
theorem holds_bound_mono (h : c.toDouble.atMost c'.toDouble = true) :
    ((bound .less c).holds subject = true → (bound .less c').holds subject = true) ∧
      ((bound .greater c').holds subject = true → (bound .greater c).holds subject = true) := by
  simp only [holds_bound_iff]
  constructor
  · rintro ⟨d, hd, hless⟩
    exact ⟨d, hd, Double.less_of_less_of_atMost hless h⟩
  · rintro ⟨d, hd, hless⟩
    exact ⟨d, hd, Double.less_of_atMost_of_less h hless⟩

/--
The rules on a bound, at a position of a record that was read. A number is there seen as a finite
one, and it is exactly one of less than the bound, equal to it and greater. Where there is no number
no comparison holds. Two bounds hold when each of them does, and shifting a bound outwards loses
nothing.
-/
theorem numeric_rules_order_numbers (path : List String) (c : Number) {part? : Option Record}
    (hread : ∀ part, part? = some part → ∃ v, Record.decode v = .ok part) :
    let holds (rule : Rule) := rule.holds (Subject.ofRecord? part?)
    (∀ op n, decode path (boundJson op n) = .ok (bound op n)) ∧
    (∀ op n op' n', decode path (boundsJson op n op' n') = .ok (bounds op n op' n')) ∧
    (∀ part, part? = some part → part.IsNumeric →
      (∃ f, Subject.ofRecord part = .scalar (.number (.finite f))) ∧
      [Operator.less, .equal, .greater].countP (fun op => holds (bound op c)) = 1 ∧
      holds (bound .atMost c) = !holds (bound .greater c) ∧
      holds (bound .atLeast c) = !holds (bound .less c)) ∧
    ((∀ part, part? = some part → ¬part.IsNumeric) → ∀ op, holds (bound op c) = false) ∧
    (∀ op op' c', holds (bounds op c op' c') = (holds (bound op c) && holds (bound op' c'))) ∧
    ∀ c', c.toDouble.atMost c'.toDouble = true →
      (holds (bound .less c) = true → holds (bound .less c') = true) ∧
      (holds (bound .greater c') = true → holds (bound .greater c) = true) := by
  intro holds
  refine ⟨decode_boundJson path, decode_boundsJson path, ?_, ?_,
    fun op op' c' => holds_bounds op c op' c' _, fun c' => holds_bound_mono⟩
  · intro part hpart hnumeric
    obtain ⟨v, hv⟩ := hread part hpart
    obtain ⟨f, hf⟩ := Record.exists_finite_of_isNumeric hv hnumeric
    have hsubject : Subject.ofRecord? part? = .scalar (.number (.finite f)) := by
      rw [hpart]
      exact hf
    have hholds (op : Operator) : holds (bound op c) = op.relates (.finite f) c.toDouble := by
      show (bound op c).holds _ = _
      rw [hsubject]
      rfl
    simp only [hholds]
    exact ⟨⟨f, hf⟩, Operator.relates_totally rfl c.toDouble_isFinite⟩
  · intro hnone op
    apply eq_false_of_ne_true
    intro hbound
    obtain ⟨d, hd, _⟩ := holds_bound_iff.1 hbound
    cases hpart : part? with
    | none =>
      rw [hpart] at hd
      cases hd
    | some part =>
      rw [hpart] at hd
      exact hnone part hpart (Record.isNumeric_of_ofRecord hd)

/-- A text with blanks around a negative zero, and the bound zero, which is the same number. -/
theorem numeric_rules_order_negative_zero :
    let part : Record := .typed (.number " -0.0 ")
    let zero : Number := .integer 0 (by decide)
    Record.decode (Attribute.container .number (.string " -0.0 ")) = .ok part ∧
      (bound .equal zero).holds (Subject.ofRecord part) = true ∧
      [Operator.less, .equal, .greater].countP
        (fun op => (bound op zero).holds (Subject.ofRecord part)) = 1 := by
  intro part zero
  have hread : Record.decode (Attribute.container .number (.string " -0.0 ")) = .ok part := rfl
  obtain ⟨_, _, hnumber, _⟩ := numeric_rules_order_numbers [] zero
    fun other hother => ⟨_, hread.trans (congrArg Except.ok (Option.some.inj hother))⟩
  exact ⟨hread, rfl, (hnumber part rfl (.inr ⟨_, rfl⟩)).2.1⟩

end Rule

end ChangeSieve
