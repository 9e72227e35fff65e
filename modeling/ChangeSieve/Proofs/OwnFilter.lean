import ChangeSieve.Match.Tree
import ChangeSieve.Proofs.Fields
import ChangeSieve.Proofs.Respelling
import ChangeSieve.Proofs.TypedScalar

/-!
Filters made from values of records. The filter that a scalar itself spells admits the scalars that
are equal to it, in either spelling, and nothing else.
-/
namespace ChangeSieve
open Outcome

/-! Values under a path, each key of it in an object of its own. -/

def Json.nest (keys : List String) (v : Json) : Json :=
  keys.foldr (fun key inner => .object [(key, inner)]) v

namespace Pattern

def Node.nest (keys : List String) (node : Node) : Node :=
  keys.foldr (fun key inner => .object [(key, inner)]) node

/-- The one filter of a nested node sees what the path leads to. -/
@[simp] theorem Node.admits_nest (keys : List String) (node : Node) (r : Option Record) :
    (node.nest keys).admits r = node.admits (r.bind (·.follow? keys)) := by
  induction keys generalizing r with
  | nil => cases r <;> rfl
  | cons key keys ih =>
    have hchild : (node.nest (key :: keys)).admits r =
        (node.nest keys).admits (r.bind (·.get? key)) := Bool.and_true _
    rw [hchild, ih]
    cases r <;> rfl

/-- An object under a key is never taken for content of a typed filter, whatever the key. -/
theorem not_hasTypedShape_of_object {key : String} {v : Json} (hv : v.kind = .object) :
    ¬HasTypedShape [(key, v)] := by
  rintro (_ | hmarker)
  · cases hv
  · simp [IsLiteral, hv] at hmarker

theorem Node.Spelling.nest {v : Json} {node : Node} (h : node.Spelling v) (hv : v.kind = .object)
    (keys : List String) : (node.nest keys).Spelling (v.nest keys) := by
  have hkind (keys : List String) : (v.nest keys).kind = .object := by
    cases keys with
    | nil => exact hv
    | cons => rfl
  induction keys with
  | nil => exact h
  | cons key keys ih =>
    exact .object (not_hasTypedShape_of_object (hkind keys)) (by simp) rfl (.cons ih .nil)

theorem decode_nest {v : Json} {node : Node} (h : node.Spelling v) (hv : v.kind = .object)
    {keys : List String} (hkeys : keys ≠ []) : ∃ p, decode (v.nest keys) = .ok p ∧
      ∀ r, p.admits r = node.admits (r.follow? keys) := by
  cases keys with
  | nil => exact absurd rfl hkeys
  | cons key keys =>
    refine ⟨_, decode_member (h.nest hv keys), fun r => ?_⟩
    exact node.admits_nest (key :: keys) (some r)

end Pattern

/-! Scalars. -/

/-- The type of a scalar: a set, a list, a map and the null that says `false` have none. -/
def Attribute.scalarType? : Attribute → Option Descriptor
  | .string _ => some .string
  | .number _ => some .number
  | .binary _ => some .binary
  | .boolean _ => some .boolean
  | .null true => some .null
  | _ => none

namespace Record

def scalarType? : Record → Option Descriptor
  | .null => some .null
  | .boolean _ => some .boolean
  | .number _ => some .number
  | .string _ => some .string
  | .typed a => a.scalarType?
  | _ => none

def IsNull (r : Record) : Prop := r = .typed (.null true) ∨ r = .null

def IsScalar (r : Record) : Scalar → Prop
  | .string s => r = .typed (.string s) ∨ r = .string s
  | .number d => (∃ text, r = .typed (.number text) ∧ Attribute.numberOfText? text = some d) ∨
      ∃ n : Number, r = .number n ∧ n.toDouble = d
  | .binary data => r = .typed (.binary data)
  | .boolean b => r = .typed (.boolean b) ∨ r = .boolean b

end Record

namespace Subject

theorem ofNumber?_eq_scalar_iff {number? : Option Double} {value : Scalar} :
    ofNumber? number? = .scalar value ↔ ∃ d, number? = some d ∧ value = .number d := by
  cases number? <;> simp [ofNumber?, eq_comm]

theorem ofAttribute_eq_null_iff {a : Attribute} : ofAttribute a = .null ↔ a = .null true := by
  cases a with
  | number text =>
    simp only [ofAttribute, reduceCtorEq, iff_false]
    cases Attribute.numberOfText? text <;> simp [ofNumber?]
  | null flag => cases flag <;> simp [ofAttribute]
  | _ => simp [ofAttribute]

theorem ofRecord_eq_null_iff {r : Record} : ofRecord r = .null ↔ r.IsNull := by
  cases r with
  | typed a => simp [ofRecord, ofAttribute_eq_null_iff, Record.IsNull]
  | _ => simp [ofRecord, Record.IsNull]

theorem ofAttribute_eq_scalar_iff {a : Attribute} {value : Scalar} :
    ofAttribute a = .scalar value ↔ (Record.typed a).IsScalar value := by
  cases a with
  | number text =>
    rw [ofAttribute, ofNumber?_eq_scalar_iff]
    cases value <;> simp [Record.IsScalar]
  | null flag => cases flag <;> cases value <;> simp [ofAttribute, Record.IsScalar]
  | _ => cases value <;> simp [ofAttribute, Record.IsScalar]

/-- A filter sees a scalar where there is one. -/
theorem ofRecord_eq_scalar_iff {r : Record} {value : Scalar} :
    ofRecord r = .scalar value ↔ r.IsScalar value := by
  cases r with
  | typed a => exact ofAttribute_eq_scalar_iff
  | _ => cases value <;> simp [ofRecord, Record.IsScalar]

end Subject

namespace TypedFilter
variable {subject : Subject}

@[simp] theorem holds_strings_iff {options : List String} :
    (strings options).holds subject = true ↔ ∃ s ∈ options, subject = .scalar (.string s) := by
  cases subject with
  | scalar value => cases value <;> simp [holds]
  | _ => simp [holds]

@[simp] theorem holds_numbers_iff {options : List Double} :
    (numbers options).holds subject = true ↔
      ∃ d, subject = .scalar (.number d) ∧ ∃ option ∈ options, d.equal option = true := by
  cases subject with
  | scalar value => cases value <;> simp [holds]
  | _ => simp [holds]

theorem holds_binaries_iff {options : List (List UInt8)} :
    (binaries options).holds subject = true ↔
      ∃ data ∈ options, subject = .scalar (.binary data) := by
  cases subject with
  | scalar value => cases value <;> simp [holds]
  | _ => simp [holds]

@[simp] theorem holds_booleans_iff {options : List Bool} :
    (booleans options).holds subject = true ↔ ∃ b ∈ options, subject = .scalar (.boolean b) := by
  cases subject with
  | scalar value => cases value <;> simp [holds]
  | _ => simp [holds]

@[simp] theorem holds_null_iff : TypedFilter.null.holds subject = true ↔ subject = .null := by
  cases subject <;> simp [holds]

@[simp] theorem holds_absent (filter : TypedFilter) : filter.holds .absent = false := by
  cases filter <;> rfl

end TypedFilter

/-! Scalars as filters. -/

namespace Attribute

/-- A part of a record has the value of an attribute; numbers are compared, not their texts. -/
def SameValue (a : Attribute) (r : Record) : Prop :=
  match a with
  | .string s => r.IsScalar (.string s)
  | .number text => ∃ x y, numberOfText? text = some x ∧ r.IsScalar (.number y) ∧ y.equal x = true
  | .binary data => r.IsScalar (.binary data)
  | .boolean b => r.IsScalar (.boolean b)
  | .null true => r.IsNull
  | _ => False

theorem SameValue.scalarType?_eq {a : Attribute} {r : Record} (h : a.SameValue r) :
    r.scalarType? = a.scalarType? := by
  unfold SameValue at h
  split at h
  · rcases h with rfl | rfl <;> rfl
  · obtain ⟨_, _, _, ⟨_, rfl, _⟩ | ⟨_, rfl, _⟩, _⟩ := h <;> rfl
  · obtain rfl := h
    rfl
  · rcases h with rfl | rfl <;> rfl
  · rcases h with rfl | rfl <;> rfl
  · exact h.elim

def filter? : Attribute → Option TypedFilter
  | .string s => some (.strings [s])
  | .number text => (numberOfText? text).map fun d => .numbers [d]
  | .binary data => some (.binaries [data])
  | .boolean b => some (.booleans [b])
  | .null true => some .null
  | _ => none

/-- The content of a scalar as that of a filter: its one alternative. A null has no alternatives. -/
def filterJson (d : Descriptor) (content : Json) : Json :=
  container d (if d = .null then content else .array [content])

/-- A scalar spells its own filter. -/
theorem filter?_spelling {a : Attribute} {filter : TypedFilter} (h : a.filter? = some filter) :
    ∃ d content, a.scalarType? = some d ∧ a.toJson = container d content ∧
      (Pattern.Node.leaf (.typed filter)).Spelling (filterJson d content) := by
  cases a with
  | string s =>
    obtain rfl := Option.some.inj h
    exact ⟨_, _, rfl, rfl, .typed (.options (by simp) (.strings [s]))⟩
  | number text =>
    obtain ⟨d, hd, rfl⟩ := Option.map_eq_some_iff.1 h
    exact ⟨_, _, rfl, rfl, .typed (.options (by simp) (.numbers (.cons (.text hd) .nil)))⟩
  | binary data =>
    obtain rfl := Option.some.inj h
    exact ⟨_, _, rfl, rfl, .typed (.options (by simp) (.binaries [data]))⟩
  | boolean b =>
    obtain rfl := Option.some.inj h
    exact ⟨_, _, rfl, rfl, .typed (.options (by simp) (.booleans [b]))⟩
  | null flag =>
    cases flag with
    | true =>
      obtain rfl := Option.some.inj h
      exact ⟨_, _, rfl, rfl, .typed (.null (.inr rfl))⟩
    | false => cases h
  | _ => cases h

theorem holds_iff_sameValue {a : Attribute} {filter : TypedFilter} (h : a.filter? = some filter)
    {r : Record} : filter.holds (Subject.ofRecord r) = true ↔ a.SameValue r := by
  cases a with
  | string s =>
    obtain rfl := Option.some.inj h
    simp [SameValue, Subject.ofRecord_eq_scalar_iff]
  | number text =>
    obtain ⟨d, hd, rfl⟩ := Option.map_eq_some_iff.1 h
    simp [SameValue, Subject.ofRecord_eq_scalar_iff, hd]
  | binary data =>
    obtain rfl := Option.some.inj h
    simp [SameValue, TypedFilter.holds_binaries_iff, Subject.ofRecord_eq_scalar_iff]
  | boolean b =>
    obtain rfl := Option.some.inj h
    simp [SameValue, Subject.ofRecord_eq_scalar_iff]
  | null flag =>
    cases flag with
    | true =>
      obtain rfl := Option.some.inj h
      simp [SameValue, Subject.ofRecord_eq_null_iff]
    | false => cases h
  | _ => cases h

theorem holds_iff_of_filter? {a : Attribute} {filter : TypedFilter} (h : a.filter? = some filter)
    {part? : Option Record} : filter.holds (Subject.ofRecord? part?) = true ↔
      ∃ part, part? = some part ∧ a.SameValue part := by
  cases part? with
  | none => simp [Subject.ofRecord?]
  | some part => simp [Subject.ofRecord?, holds_iff_sameValue h]

end Attribute

/-! Parts of records that were read. -/

namespace Record

theorem exists_decode_of_get? {v : Json} {r part : Record} {key : String} (h : decode v = .ok r)
    (hpart : r.get? key = some part) : ∃ w, decode w = .ok part := by
  cases v with
  | array items =>
    simp only [decode, bind_eq_ok_iff, pure_eq_ok_iff] at h
    obtain ⟨rs, _, rfl⟩ := h
    cases hpart
  | object members =>
    by_cases hshape : isContainer members = true
    · rw [decode_eq_of_isContainer hshape, map_eq_ok_iff] at h
      obtain ⟨a, _, rfl⟩ := h
      cases hpart
    · rw [decode_eq_of_not_isContainer (eq_false_of_ne_true hshape), map_eq_ok_iff,
        decodeMembers_eq_mapM] at h
      obtain ⟨fields, hfields, rfl⟩ := h
      obtain ⟨member, _, hmember⟩ :=
        exists_left_of_forall₂ (mapM_eq_ok_iff.1 hfields) (Fields.mem_of_get? hpart)
      obtain ⟨child, hchild, hpair⟩ := map_eq_ok_iff.1 hmember
      obtain rfl := (Prod.mk.inj hpair).2
      exact ⟨member.2, hchild⟩
  | _ =>
    obtain rfl := Except.ok.inj h
    cases hpart

theorem exists_decode_of_follow? {v : Json} {r part : Record} {keys : List String}
    (h : decode v = .ok r) (hpart : r.follow? keys = some part) : ∃ w, decode w = .ok part := by
  induction keys generalizing v r with
  | nil =>
    obtain rfl := Option.some.inj hpart
    exact ⟨v, h⟩
  | cons key keys ih =>
    obtain ⟨child, hchild, hrest⟩ := Option.bind_eq_some_iff.1 hpart
    obtain ⟨w, hw⟩ := exists_decode_of_get? h hchild
    exact ih hw hrest

/-- The text of a number that was read means a finite number. -/
theorem exists_number_of_decode {v : Json} {text : String}
    (h : decode v = .ok (.typed (.number text))) :
    ∃ d, Attribute.numberOfText? text = some d ∧ d.isFinite = true := by
  have hread : Attribute.decodeContent .number (.string text) = .ok (.number text) :=
    decode_container_eq_typed_iff.1 (decode_toJson h)
  have hflat : Attribute.IsFlat .number (.string text) := by simp [Attribute.IsFlat]
  rw [Attribute.decodeContent_of_isFlat hflat] at hread
  simp only [Attribute.decodeFlat, bind_eq_ok_iff, pure_eq_ok_iff,
    Attribute.checkNumber_eq_ok_iff] at hread
  obtain ⟨_, _, _, ⟨hfinite, rfl⟩, hnumber⟩ := hread
  obtain rfl := Attribute.number.inj hnumber
  exact (Option.any_eq_true _ _).1 hfinite

end Record

namespace Attribute

/-- A scalar that was read has a filter, and this filter holds of it. -/
theorem exists_filter_of_decode {v : Json} {a : Attribute} {d : Descriptor}
    (h : Record.decode v = .ok (.typed a)) (hd : a.scalarType? = some d) :
    (∃ filter, a.filter? = some filter) ∧ a.SameValue (.typed a) := by
  cases a with
  | number text =>
    obtain ⟨x, hx, hfinite⟩ := Record.exists_number_of_decode h
    refine ⟨⟨.numbers [x], by simp [filter?, hx]⟩, x, x, hx, .inl ⟨text, rfl, hx⟩, ?_⟩
    refine Double.equal_self_iff.2 fun hnan => ?_
    rw [hnan] at hfinite
    cases hfinite
  | string s => exact ⟨⟨_, rfl⟩, .inl rfl⟩
  | binary data => exact ⟨⟨_, rfl⟩, rfl⟩
  | boolean b => exact ⟨⟨_, rfl⟩, .inl rfl⟩
  | null flag =>
    cases flag with
    | true => exact ⟨⟨_, rfl⟩, .inl rfl⟩
    | false => cases hd
  | _ => cases hd

end Attribute

/--
A scalar of a record, put as a filter under the keys that lead to it, is a pattern. It admits that
record, and every other record with an equal value under these keys, whether typed or plain. A value
of any other type is not admitted, and neither is a record that has no scalar there.
-/
theorem Record.filterJson_admits_iff_sameValue {v : Json} {r : Record} {keys : List String}
    {a : Attribute} {d : Descriptor} (h : decode v = .ok r) (hkeys : keys ≠ [])
    (ha : r.follow? keys = some (.typed a)) (hd : a.scalarType? = some d) :
    ∃ content p, a.toJson = Attribute.container d content ∧
      Pattern.decode ((Attribute.filterJson d content).nest keys) = .ok p ∧
      p.admits r = true ∧
      ∀ r', (p.admits r' = true ↔ ∃ part, r'.follow? keys = some part ∧ a.SameValue part) ∧
        (p.admits r' = true → (r'.follow? keys).bind scalarType? = some d) := by
  obtain ⟨w, hw⟩ := exists_decode_of_follow? h ha
  obtain ⟨⟨filter, hfilter⟩, hself⟩ := Attribute.exists_filter_of_decode hw hd
  obtain ⟨d', content, hd', hwritten, hspelling⟩ := Attribute.filter?_spelling hfilter
  obtain rfl : d = d' := Option.some.inj (hd.symm.trans hd')
  obtain ⟨p, hp, hadmits⟩ := Pattern.decode_nest hspelling rfl hkeys
  have hiff (r' : Record) :
      p.admits r' = true ↔ ∃ part, r'.follow? keys = some part ∧ a.SameValue part := by
    rw [hadmits]
    exact Attribute.holds_iff_of_filter? hfilter
  refine ⟨content, p, hwritten, hp, (hiff r).2 ⟨_, ha, hself⟩, fun r' => ⟨hiff r', fun h' => ?_⟩⟩
  obtain ⟨part, hpart, hsame⟩ := (hiff r').1 h'
  rw [hpart, Option.bind_some, hsame.scalarType?_eq, hd]

/-- Keys that are names of types lead to the value as any others do. -/
theorem Record.filterJson_admits_under_type_names :
    let typed := Record.object [("S", .object [("N", .typed (.string "x"))])]
    let plain := Record.object [("S", .object [("N", .string "x")])]
    ∃ p, Pattern.decode ((Attribute.container .string (.array [.string "x"])).nest ["S", "N"]) =
        .ok p ∧ p.admits typed = true ∧ p.admits plain = true := by
  intro typed plain
  have hread : decode ((Attribute.container .string (.string "x")).nest ["S", "N"]) = .ok typed :=
    rfl
  have hvalue : typed.follow? ["S", "N"] = some (.typed (.string "x")) := rfl
  obtain ⟨content, p, hwritten, hp, hself, hall⟩ :=
    filterJson_admits_iff_sameValue hread (by simp) hvalue rfl
  obtain rfl : Json.string "x" = content :=
    (Descriptor.singleton_inj.1 (Json.object.inj hwritten)).2
  exact ⟨p, hp, hself, (hall plain).1.2 ⟨.string "x", rfl, .inr rfl⟩⟩

end ChangeSieve
