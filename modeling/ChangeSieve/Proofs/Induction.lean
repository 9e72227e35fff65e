import ChangeSieve.Pattern.Basic
import ChangeSieve.Record.Basic

/-!
Inductions over JSON values, attributes, records and pattern nodes. The hypothesis of a list or an
object covers all of its members at once.
-/
namespace ChangeSieve

@[elab_as_elim, induction_eliminator]
theorem Json.induction {motive : Json → Prop} (null : motive .null)
    (boolean : ∀ value, motive (.boolean value)) (number : ∀ value, motive (.number value))
    (string : ∀ value, motive (.string value))
    (array : ∀ items, (∀ item ∈ items, motive item) → motive (.array items))
    (object : ∀ members, (∀ member ∈ members, motive member.2) → motive (.object members))
    (v : Json) : motive v :=
  @Json.rec motive (fun items => ∀ item ∈ items, motive item)
    (fun members => ∀ member ∈ members, motive member.2) (fun member => motive member.2)
    null boolean number string array object
    (List.forall_mem_nil _) (fun _ _ head tail => List.forall_mem_cons.2 ⟨head, tail⟩)
    (List.forall_mem_nil _) (fun _ _ head tail => List.forall_mem_cons.2 ⟨head, tail⟩)
    (fun _ _ value => value) v

@[elab_as_elim, induction_eliminator]
theorem Attribute.induction {motive : Attribute → Prop} (string : ∀ text, motive (.string text))
    (number : ∀ text, motive (.number text)) (binary : ∀ data, motive (.binary data))
    (stringSet : ∀ members, motive (.stringSet members))
    (numberSet : ∀ members, motive (.numberSet members))
    (binarySet : ∀ members, motive (.binarySet members))
    (boolean : ∀ value, motive (.boolean value)) (null : ∀ flag, motive (.null flag))
    (list : ∀ items, (∀ item ∈ items, motive item) → motive (.list items))
    (map : ∀ entries, (∀ entry ∈ entries, motive entry.2) → motive (.map entries))
    (a : Attribute) : motive a :=
  @Attribute.rec motive (fun items => ∀ item ∈ items, motive item)
    (fun entries => ∀ entry ∈ entries, motive entry.2) (fun entry => motive entry.2)
    string number binary stringSet numberSet binarySet boolean null list map
    (List.forall_mem_nil _) (fun _ _ head tail => List.forall_mem_cons.2 ⟨head, tail⟩)
    (List.forall_mem_nil _) (fun _ _ head tail => List.forall_mem_cons.2 ⟨head, tail⟩)
    (fun _ _ value => value) a

@[elab_as_elim, induction_eliminator]
theorem Record.induction {motive : Record → Prop} (null : motive .null)
    (boolean : ∀ value, motive (.boolean value)) (number : ∀ value, motive (.number value))
    (string : ∀ text, motive (.string text))
    (list : ∀ items, (∀ item ∈ items, motive item) → motive (.list items))
    (typed : ∀ value, motive (.typed value))
    (object : ∀ fields, (∀ field ∈ fields, motive field.2) → motive (.object fields))
    (r : Record) : motive r :=
  @Record.rec motive (fun items => ∀ item ∈ items, motive item)
    (fun fields => ∀ field ∈ fields, motive field.2) (fun field => motive field.2)
    null boolean number string list typed object
    (List.forall_mem_nil _) (fun _ _ head tail => List.forall_mem_cons.2 ⟨head, tail⟩)
    (List.forall_mem_nil _) (fun _ _ head tail => List.forall_mem_cons.2 ⟨head, tail⟩)
    (fun _ _ r => r) r

@[elab_as_elim, induction_eliminator]
theorem Pattern.Node.induction {motive : Node → Prop} (leaf : ∀ filter, motive (.leaf filter))
    (object : ∀ children, (∀ child ∈ children, motive child.2) → motive (.object children))
    (node : Node) : motive node :=
  @Node.rec motive (fun children => ∀ child ∈ children, motive child.2)
    (fun child => motive child.2) leaf object
    (List.forall_mem_nil _) (fun _ _ head tail => List.forall_mem_cons.2 ⟨head, tail⟩)
    (fun _ _ node => node) node

end ChangeSieve
