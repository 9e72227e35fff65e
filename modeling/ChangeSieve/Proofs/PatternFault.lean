import ChangeSieve.Proofs.OwnFilter

/-!
Faults of patterns. The path of an error leads to the first node at fault, past members that are all
read. The error depends on nothing but that node, apart from its path, and on nothing behind it.
-/
namespace ChangeSieve
open Outcome

namespace PatternError

def path : PatternError → List String
  | .notAnObject path _ => path
  | .emptyObject path => path
  | .invalidLeaf path _ => path
  | .emptyRuleList path => path
  | .unknownRule path _ => path
  | .ambiguousRule path _ => path
  | .invalidRule path _ => path
  | .unknownOperator path _ => path
  | .invalidTypedFilter path _ _ => path

/-- The same fault of a node that stands elsewhere. -/
def moveTo (path : List String) : PatternError → PatternError
  | .notAnObject _ found => .notAnObject path found
  | .emptyObject _ => .emptyObject path
  | .invalidLeaf _ found => .invalidLeaf path found
  | .emptyRuleList _ => .emptyRuleList path
  | .unknownRule _ key => .unknownRule path key
  | .ambiguousRule _ keys => .ambiguousRule path keys
  | .invalidRule _ fault => .invalidRule path fault
  | .unknownOperator _ operator => .unknownOperator path operator
  | .invalidTypedFilter _ descriptor fault => .invalidTypedFilter path descriptor fault

@[simp] theorem path_moveTo (e : PatternError) (path : List String) : (e.moveTo path).path = path := by
  cases e <;> rfl

@[simp] theorem moveTo_moveTo (e : PatternError) (path path' : List String) :
    (e.moveTo path).moveTo path' = e.moveTo path' := by
  cases e <;> rfl

end PatternError

/-! Readers of single nodes. -/

/-- A reader whose path is seen in its errors only, as the place of the fault. -/
def Placed {α : Type} (read : List String → Except PatternError α) : Prop :=
  ∀ path, read path = (read []).mapError (·.moveTo path)

namespace Placed
variable {α β : Type} {read : List String → Except PatternError α}

theorem of_error (h : Placed read) {path : List String} {e : PatternError}
    (he : read path = .error e) : e.path = path ∧ ∀ path', read path' = .error (e.moveTo path') := by
  rw [h path, mapError_eq_error_iff] at he
  obtain ⟨e₀, he₀, rfl⟩ := he
  refine ⟨e₀.path_moveTo path, fun path' => ?_⟩
  rw [h path', he₀, PatternError.moveTo_moveTo]
  rfl

theorem bind (h : Placed read) {next : List String → α → Except PatternError β}
    (hnext : ∀ a, Placed fun path => next path a) : Placed fun path => read path >>= next path := by
  intro path
  show read path >>= next path = (read [] >>= next []).mapError (·.moveTo path)
  rw [h path]
  cases read [] with
  | error e => rfl
  | ok a => exact hnext a path

theorem map (h : Placed read) (f : α → β) : Placed fun path => (read path).map f := by
  intro path
  show (read path).map f = ((read []).map f).mapError (·.moveTo path)
  rw [h path]
  cases read [] <;> rfl

theorem mapM {read : List String → α → Except PatternError β} (h : ∀ a, Placed fun path => read path a)
    (as : List α) : Placed fun path => as.mapM (read path) := by
  induction as with
  | nil => exact fun _ => rfl
  | cons a rest ih =>
    simp only [List.mapM_cons]
    exact (h a).bind fun b => ih.bind fun bs => fun _ => rfl

end Placed

namespace Rule

theorem placed_decodeComparison (operator operand : Json) :
    Placed fun path => decodeComparison path operator operand := by
  cases operator with
  | string symbol =>
    simp only [decodeComparison]
    cases Operator.ofSymbol? symbol with
    | none => exact fun _ => rfl
    | some op => cases operand <;> exact fun _ => rfl
  | _ => exact fun _ => rfl

theorem placed_decodeNumeric (v : Json) : Placed fun path => decodeNumeric path v := by
  unfold decodeNumeric
  split
  · exact (placed_decodeComparison _ _).bind fun _ _ => rfl
  · exact (placed_decodeComparison _ _).bind fun _ => (placed_decodeComparison _ _).bind fun _ _ => rfl
  · exact fun _ => rfl
  · exact fun _ => rfl

theorem placed_decodeNamed (key : String) (argument : Json) :
    Placed fun path => decodeNamed path key argument := by
  unfold decodeNamed
  split_ifs
  · intro path
    cases decodeExcluded argument <;> rfl
  · exact (placed_decodeNumeric argument).map _
  · cases argument <;> exact fun _ => rfl
  · cases argument <;> exact fun _ => rfl
  · exact fun _ => rfl

theorem placed_decode (v : Json) : Placed fun path => decode path v := by
  cases v with
  | object members =>
    match members with
    | [] | _ :: _ :: _ => exact fun _ => rfl
    | [(key, argument)] => exact placed_decodeNamed key argument
  | _ => exact fun _ => rfl

theorem placed_decodeList (items : List Json) : Placed fun path => decodeList path items := by
  unfold decodeList
  split_ifs
  · exact fun _ => rfl
  · exact .mapM placed_decode items

end Rule

theorem TypedFilter.placed_decode? (members : List (String × Json)) :
    Placed fun path => decode? path members := by
  intro path
  obtain ⟨d, content, rfl, -⟩ | ⟨hnone, hshape⟩ := decode?_cases path members
  · simp only [decode?, Descriptor.ofName?_eq_some_iff.2 rfl]
    cases decodeContent? d content <;> rfl
  · simp only [decode?_eq_none_iff.2 hshape]
    rfl

namespace Pattern

/--
The nodes that are read without going on to the nodes under their keys: rule lists, typed filters, and what
is no node whatever stands around it.
-/
inductive IsUndivided : Json → Prop where
  | array (items : List Json) : IsUndivided (.array items)
  | bare {v : Json} (h : v = .null ∨ IsLiteral v) : IsUndivided v
  | empty : IsUndivided (.object [])
  | typed {members : List (String × Json)} (h : HasTypedShape members) :
      IsUndivided (.object members)

theorem IsUndivided.placed {w : Json} (h : IsUndivided w) :
    Placed fun path => Node.decode path w := by
  cases h with
  | array items =>
    simp only [Node.decode]
    exact (Rule.placed_decodeList items).bind fun _ _ => rfl
  | bare h => cases w <;> first | exact fun _ => rfl | simp [IsLiteral, Json.kind] at h
  | empty => exact fun _ => rfl
  | @typed members h =>
    intro path
    simp only [Node.decode]
    have hplaced : TypedFilter.decode? path members =
        (TypedFilter.decode? [] members).mapError (·.moveTo path) :=
      TypedFilter.placed_decode? members path
    cases hread : TypedFilter.decode? [] members with
    | error e =>
      rw [hplaced, hread]
      rfl
    | ok filter? =>
      cases filter? with
      | none => exact absurd h (TypedFilter.decode?_eq_none_iff.1 hread)
      | some filter =>
        rw [hplaced, hread]
        rfl

@[simp] theorem decodeChildren_eq_mapM (path : List String) (members : List (String × Json)) :
    decodeChildren path members = members.mapM fun member =>
      (Node.decode (path ++ [member.1]) member.2).map (Prod.mk member.1) := by
  induction members with
  | nil => rfl
  | cons member rest ih =>
    simp only [decodeChildren, List.mapM_cons, ih]
    cases Node.decode (path ++ [member.1]) member.2 <;> rfl

/-! The way to a fault, and what lies behind it. -/

/-- The keys lead through objects down to a value, and every member with a smaller key is read as a node. -/
inductive LeadsPast : List String → Json → Json → Prop where
  | here (v : Json) : LeadsPast [] v v
  | member {members : List (String × Json)} {key : String} {child w : Json} {keys : List String}
      (hchild : (key, child) ∈ members)
      (hbefore : ∀ member ∈ members, member.1 < key →
        ∀ path, ∃ node, Node.decode path member.2 = .ok node)
      (h : LeadsPast keys child w) : LeadsPast (key :: keys) (.object members) w

/--
Two values have the same keys, the same values under the keys before those of the path, and the same value at
its end. What stands under later keys may be anything.
-/
def AlikeUpTo : List String → Json → Json → Prop
  | [], v, v' => v' = v
  | key :: keys, v, v' => ∃ members members', v = .object members ∧ v' = .object members' ∧
      List.Forall₂ (fun member member' => member'.1 = member.1 ∧
        (member.1 < key → member'.2 = member.2) ∧
        (member.1 = key → AlikeUpTo keys member.2 member'.2)) members members'

variable {path keys : List String} {key : String} {v w : Json} {e : PatternError}

/-- What the error of a reader says when the value at the end of some keys is the first at fault. -/
structure Locates {α : Type} (read : Json → Except PatternError α) (v : Json) (e : PatternError)
    (path keys : List String) (w : Json) : Prop where
  leads : LeadsPast keys v w
  undivided : IsUndivided w
  path_eq : e.path = path ++ keys
  alone : ∀ path', Node.decode path' w = .error (e.moveTo path')
  kept : ∀ v', AlikeUpTo keys v v' → read v' = .error e

theorem Locates.here (hw : IsUndivided w) (h : Node.decode path w = .error e) :
    Locates (Node.decode path) w e path [] w where
  leads := .here w
  undivided := hw
  path_eq := by rw [(hw.placed.of_error h).1, List.append_nil]
  alone := (hw.placed.of_error h).2
  kept := by
    rintro v' rfl
    exact h

theorem Locates.imp {α β : Type} {read : Json → Except PatternError α}
    {read' : Json → Except PatternError β} (h : Locates read v e path keys w)
    (hread : ∀ v', AlikeUpTo keys v v' → read v' = .error e → read' v' = .error e) :
    Locates read' v e path keys w where
  leads := h.leads
  undivided := h.undivided
  path_eq := h.path_eq
  alone := h.alone
  kept := fun v' hv' => hread v' hv' (h.kept v' hv')

def decodeBelow (path : List String) : Json → Except PatternError (List (String × Node))
  | .object members => decodeChildren path members
  | v => .error (.notAnObject path v.kind)

/-- In an object of which the front is read, the fault of the next member is the fault of the object. -/
theorem Locates.below {before after : List (String × Json)} {child : Json}
    (hsorted : Fields.Sorted (before ++ (key, child) :: after))
    (hbefore : ∀ member ∈ before, ∃ node, Node.decode (path ++ [member.1]) member.2 = .ok node)
    (h : Locates (Node.decode (path ++ [key])) child e (path ++ [key]) keys w) :
    Locates (decodeBelow path) (.object (before ++ (key, child) :: after)) e path (key :: keys) w where
  leads := by
    refine .member (by simp) (fun member hmember hlt path' => ?_) h.leads
    obtain ⟨-, hlater⟩ := Fields.lt_of_sorted_append_cons hsorted
    rcases List.mem_append.1 hmember with hmember | hmember
    · obtain ⟨node, hnode⟩ := hbefore member hmember
      rw [Node.decode_eq_ok_iff_spelling] at hnode
      exact ⟨node, (Node.decode_eq_ok_iff_spelling _ _).2 hnode⟩
    · rcases List.mem_cons.1 hmember with rfl | hmember
      · exact absurd hlt (lt_irrefl key)
      · exact absurd hlt (lt_asymm (hlater member hmember))
  undivided := h.undivided
  path_eq := by simp [h.path_eq]
  alone := h.alone
  kept := by
    rintro v' ⟨members, members', hv, rfl, hpairs⟩
    obtain rfl := Json.object.inj hv
    obtain ⟨hearlier, -⟩ := Fields.lt_of_sorted_append_cons hsorted
    obtain ⟨before', ⟨key', child'⟩, after', hfront, ⟨rfl, -, hchild⟩, -, rfl⟩ :=
      exists_forall₂_of_append_cons hpairs
    -- the front is the same, so the first member that cannot be read stands at the same place
    have hsame : List.Forall₂ Eq before before' :=
      forall₂_imp_of_mem hfront fun member hmember member' hpair =>
        Prod.ext hpair.1.symm (hpair.2.1 (hearlier member hmember)).symm
    rw [List.forall₂_eq_eq_eq] at hsame
    subst hsame
    rw [decodeBelow, decodeChildren_eq_mapM, mapM_eq_error_iff]
    refine ⟨before, _, after', rfl, fun member hmember => ?_, ?_⟩
    · obtain ⟨node, hnode⟩ := hbefore member hmember
      exact ⟨_, map_eq_ok_iff.2 ⟨node, hnode, rfl⟩⟩
    · exact map_eq_error_iff.2 (h.kept child' (hchild rfl))

theorem exists_locates_of_decodeChildren {members : List (String × Json)}
    (hsorted : Fields.Sorted members)
    (hmembers : ∀ member ∈ members, ∀ path, Node.decode path member.2 = .error e →
      ∃ keys w, Locates (Node.decode path) member.2 e path keys w)
    (h : decodeChildren path members = .error e) :
    ∃ key keys w, Locates (decodeBelow path) (.object members) e path (key :: keys) w := by
  rw [decodeChildren_eq_mapM, mapM_eq_error_iff] at h
  obtain ⟨before, ⟨key, child⟩, after, rfl, hbefore, hfault⟩ := h
  rw [map_eq_error_iff] at hfault
  obtain ⟨keys, w, hlocates⟩ := hmembers _ (by simp) _ hfault
  refine ⟨key, keys, w, hlocates.below hsorted fun member hmember => ?_⟩
  obtain ⟨_, hread⟩ := hbefore member hmember
  obtain ⟨node, hnode, _⟩ := map_eq_ok_iff.1 hread
  exact ⟨node, hnode⟩

/-- An object that is gone through for its nodes is not made a typed filter by what stands behind a fault. -/
theorem not_hasTypedShape_of_alikeUpTo {members members' : List (String × Json)}
    (hshape : ¬HasTypedShape members) (hlead : LeadsPast (key :: keys) (.object members) w)
    (halike : AlikeUpTo (key :: keys) (.object members) (.object members')) :
    ¬HasTypedShape members' := by
  intro htyped
  obtain ⟨_, _, ⟨⟩, ⟨⟩, hpairs⟩ := halike
  obtain ⟨d, content', rfl⟩ := TypedFilter.exists_name_of_hasTypedShape htyped
  obtain ⟨⟨name, content⟩, rest, ⟨rfl, -, hcontent⟩, hrest, rfl⟩ := List.forall₂_cons_right_iff.1 hpairs
  obtain rfl := List.forall₂_nil_right_iff.1 hrest
  cases hlead with
  | member hchild =>
    obtain ⟨rfl, rfl⟩ := Prod.mk.inj (List.mem_singleton.1 hchild)
    cases keys with
    | nil =>
      obtain rfl : content' = _ := hcontent rfl
      exact hshape htyped
    | cons =>
      obtain ⟨_, _, _, rfl, _⟩ := hcontent rfl
      exact not_hasTypedShape_of_object rfl htyped

/-- An object that is no typed filter is read by the nodes under its keys. -/
theorem Node.decode_object_of_not_typed {members : List (String × Json)}
    (hshape : ¬HasTypedShape members) (hne : members ≠ []) :
    Node.decode path (.object members) = (decodeBelow path (.object members)).map .object := by
  simp only [Node.decode, TypedFilter.decode?_eq_none_iff.2 hshape, ok_bind,
    List.isEmpty_eq_false_iff.2 hne, Bool.false_eq_true, if_false, decodeBelow]
  cases decodeChildren path members <;> rfl

/-- The error of a node leads to the first node in it that is at fault. -/
theorem Node.exists_locates (hsorted : v.Sorted) (h : Node.decode path v = .error e) :
    ∃ keys w, Locates (Node.decode path) v e path keys w := by
  induction v generalizing path with
  | object members ih =>
    by_cases hshape : HasTypedShape members
    · exact ⟨[], _, .here (.typed hshape) h⟩
    by_cases hempty : members = []
    · subst hempty
      exact ⟨[], _, .here .empty h⟩
    obtain ⟨hfields, hmembers⟩ := Json.sorted_object_iff.1 hsorted
    rw [decode_object_of_not_typed hshape hempty, map_eq_error_iff] at h
    obtain ⟨key, keys, w, hlocates⟩ := exists_locates_of_decodeChildren hfields
      (fun member hmember path => ih member hmember (hmembers member hmember)) h
    -- other values behind the fault could only matter by turning the object into a typed filter
    refine ⟨key :: keys, w, hlocates.imp fun v' halike hv' => ?_⟩
    obtain ⟨_, members', -, rfl, -⟩ := id halike
    have hshape' := not_hasTypedShape_of_alikeUpTo hshape hlocates.leads halike
    have hempty' : members' ≠ [] := by
      rintro rfl
      cases hv'
    rw [decode_object_of_not_typed hshape' hempty', map_eq_error_iff, hv']
  | array items => exact ⟨[], _, .here (.array items) h⟩
  | null => exact ⟨[], _, .here (.bare (.inl rfl)) h⟩
  | _ => exact ⟨[], _, .here (.bare (.inr (by simp [IsLiteral, Json.kind]))) h⟩

theorem decode_object {members : List (String × Json)} (hne : members ≠ []) :
    decode (.object members) = (decodeBelow [] (.object members)).map Pattern.mk := by
  simp only [decode, List.isEmpty_eq_false_iff.2 hne, Bool.false_eq_true, if_false, decodeBelow]

/-- A fault that is not in the root keeps every value that is alike up to it from being a pattern. -/
theorem Locates.decode (h : Locates (decodeBelow []) v e [] (key :: keys) w) :
    Locates Pattern.decode v e [] (key :: keys) w := by
  refine h.imp fun v' halike hv' => ?_
  obtain ⟨_, members', -, rfl, -⟩ := halike
  have hne : members' ≠ [] := by
    rintro rfl
    cases hv'
  rw [decode_object hne, map_eq_error_iff, hv']

/-- Alone under a key, a faulty node is at fault for the same reason. -/
theorem Locates.decode_alone {α : Type} {read : Json → Except PatternError α}
    (h : Locates read v e path keys w) (key : String) :
    Pattern.decode (.object [(key, w)]) = .error (e.moveTo [key]) := by
  rw [decode_object (List.cons_ne_nil _ _), map_eq_error_iff, decodeBelow, decodeChildren_eq_mapM,
    mapM_eq_error_iff]
  exact ⟨[], _, [], rfl, by simp, map_eq_error_iff.2 (h.alone _)⟩

/-- A value that cannot be the root of a pattern is itself at fault. -/
theorem path_of_decode_root (hroot : v.kind ≠ .object ∨ v = .object [])
    (h : decode v = .error e) : e.path = [] := by
  rcases hroot with hkind | rfl
  · cases v with
    | object members => exact absurd rfl hkind
    | _ =>
      obtain rfl := Except.error.inj h
      rfl
  · obtain rfl := Except.error.inj h
    rfl

/--
A value that is no pattern has a first node at fault: keys lead to it through objects, and all members under
smaller keys are read as nodes. The path of the error are these keys. Unless it is the value itself, which is
then no object or an empty one, that node is read without going on to others, and alone under any key it is
at fault for the same reason. What stands under later keys does not matter to the error.
-/
theorem decode_error_names_first_fault (hsorted : v.Sorted) (h : decode v = .error e) :
    ∃ keys w, LeadsPast keys v w ∧
      e.path = keys ∧ pathText e.path = (if keys = [] then "<root>" else ".".intercalate keys) ∧
      (keys = [] → w.kind ≠ .object ∨ w = .object []) ∧
      (keys ≠ [] → IsUndivided w ∧ ∀ key, decode (.object [(key, w)]) = .error (e.moveTo [key])) ∧
      ∀ v', AlikeUpTo keys v v' → decode v' = .error e := by
  by_cases hroot : v.kind ≠ .object ∨ v = .object []
  · have hpath := path_of_decode_root hroot h
    refine ⟨[], v, .here v, hpath, by rw [hpath]; rfl, fun _ => hroot, fun hne => absurd rfl hne, ?_⟩
    rintro v' rfl
    exact h
  · cases v with
    | object members =>
      simp only [not_or, Json.object.injEq] at hroot
      obtain ⟨hfields, hmembers⟩ := Json.sorted_object_iff.1 hsorted
      rw [decode_object hroot.2, map_eq_error_iff] at h
      obtain ⟨key, keys, w, hlocates⟩ := exists_locates_of_decodeChildren hfields
        (fun member hmember path => Node.exists_locates (hmembers member hmember)) h
      have hpath : e.path = key :: keys := hlocates.path_eq
      exact ⟨_, w, hlocates.leads, hpath, by rw [hpath]; rfl, by simp,
        fun _ => ⟨hlocates.undivided, hlocates.decode_alone⟩, hlocates.decode.kept⟩
    | _ => exact absurd (.inl (by simp [Json.kind])) hroot

/-- A nested array two levels down, behind a node that is read and before others that could not be. -/
theorem decode_error_names_nested_array :
    let fault := Json.array [.array []]
    let v := Json.object [("a", .array [.string "x"]),
      ("b", .object [("c", fault), ("d", .null)]), ("e", .boolean true)]
    let v' := Json.object [("a", .array [.string "x"]),
      ("b", .object [("c", fault), ("d", .array [.null])]), ("e", .object [])]
    let e := PatternError.invalidRule ["b", "c"] .nestedArray
    v.Sorted ∧ decode v = .error e ∧ pathText e.path = "b.c" ∧
      decode (.object [("p", fault)]) = .error (.invalidRule ["p"] .nestedArray) ∧
      decode v' = .error e := by
  intro fault v v' e
  have hkeys : ["a", "b", "e"].Pairwise (· < ·) := by decide
  have hinner : ["c", "d"].Pairwise (· < ·) := by decide
  have hsorted : v.Sorted := by
    simpa [v, fault, Json.Sorted, Json.SortedMembers, Json.SortedItems, Fields.Sorted]
      using And.intro hkeys hinner
  have hread : decode v = .error e := rfl
  obtain ⟨keys, w, hlead, hpath, htext, -, hnode, hkept⟩ := decode_error_names_first_fault hsorted hread
  obtain rfl : ["b", "c"] = keys := hpath
  have hw : w = fault := by
    simp only [v] at hlead
    rcases hlead with _ | ⟨hb, -, _ | ⟨hc, -, _ | _⟩⟩
    obtain rfl : _ = [("c", fault), ("d", .null)] := by simpa using hb
    simpa using hc
  have halike : AlikeUpTo ["b", "c"] v v' := by
    refine ⟨_, _, rfl, rfl, .cons (by simp) (.cons ⟨rfl, ?_, ?_⟩ (.cons ⟨rfl, ?_, by simp⟩ .nil))⟩
    · exact fun hlt => absurd hlt (by decide)
    · refine fun _ => ⟨_, _, rfl, rfl, .cons ⟨rfl, ?_, fun _ => rfl⟩ (.cons ⟨rfl, ?_, by simp⟩ .nil)⟩
      · exact fun _ => rfl
      · exact fun hlt => absurd hlt (by decide)
    · exact fun hlt => absurd hlt (by decide)
  subst hw
  exact ⟨hsorted, hread, htext, (hnode (by simp)).2 "p", hkept v' halike⟩

end Pattern

end ChangeSieve
