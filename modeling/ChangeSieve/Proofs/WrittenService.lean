import ChangeSieve.Proofs.Container
import ChangeSieve.Proofs.StreamSources

/-!
Services that are written and read again. There are many ways to write a service, but only one in which
it is written here, and what was read in any way is read as the same from that one. What a service keeps
without looking at it is written as it stood.
-/
namespace ChangeSieve
open Outcome

/-! Members that stand in an object only where there is a value. -/

section MemberIf
variable {α β : Type} {key : String} {write : α → Json} {value? : Option α}

@[simp] theorem mem_memberIf {member : String × Json} :
    member ∈ memberIf key write value? ↔ ∃ a, value? = some a ∧ member = (key, write a) := by
  cases value? <;> simp [memberIf]

theorem keys_memberIf : ((memberIf key write value?).map Prod.fst).Sublist [key] := by
  cases value? <;> simp [memberIf]

theorem foldlM_memberIf {step : β → String × Json → Except ContentError β} {b b' : β}
    (hnone : value? = none → b = b')
    (hsome : ∀ a, value? = some a → step b (key, write a) = .ok b') :
    (memberIf key write value?).foldlM step b = .ok b' := by
  cases value? with
  | none => simp [memberIf, hnone rfl]
  | some a => simp [memberIf, hsome a rfl]

end MemberIf

theorem Json.asOptional_of_ok {α : Type} {read : Json → Except ContentError α} {v : Json} {a : α}
    (hnull : ∀ a, read .null ≠ .ok a) (h : read v = .ok a) : v.asOptional read = .ok (some a) := by
  cases v with
  | null => exact absurd h (hnull a)
  | _ => simp [asOptional, h]

theorem Json.read_of_asOptional {α : Type} {read : Json → Except ContentError α} {v : Json} {a : α}
    (h : v.asOptional read = .ok (some a)) : read v = .ok a := by
  cases v with
  | null => cases h
  | _ =>
    obtain ⟨_, hread, hsome⟩ := map_eq_ok_iff.1 h
    rwa [← Option.some.inj hsome]

/-- What is written has its keys in order, and is read as what it was written from. -/
structure Survives {α : Type} (write : α → Json) (read : Json → Except ContentError α) (a : α) :
    Prop where
  sorted : (write a).Sorted
  read_eq : read (write a) = .ok a

theorem mapM_of_survives {α : Type} {write : α → Json} {read : Json → Except ContentError α}
    {as : List α} (h : ∀ a ∈ as, Survives write read a) : (as.map write).mapM read = .ok as := by
  rw [mapM_eq_ok_iff, List.forall₂_map_left_iff, List.forall₂_same]
  exact fun a ha => (h a ha).read_eq

theorem Json.asCount_ofNat_of_asCount {v : Json} {n : Nat} (h : v.asCount = .ok n) :
    (Json.ofNat n).asCount = .ok n := by
  cases v with
  | number number =>
    cases number with
    | integer i hfits =>
      rw [asCount] at h
      split_ifs at h with hneg
      obtain rfl := Except.ok.inj h
      have hi : (i.toNat : Int) = i := Int.toNat_of_nonneg (not_lt.1 hneg)
      have hfits' : FitsWord i.toNat := hi.symm ▸ hfits
      have hnonneg : ¬(i.toNat : Int) < 0 := Int.not_lt.2 (Int.natCast_nonneg _)
      rw [ofNat, dif_pos hfits', asCount, if_neg hnonneg, Int.toNat_natCast]
    | float f => simp [asCount] at h
  | _ => simp [asCount] at h

theorem Json.sorted_ofNat (n : Nat) : (Json.ofNat n).Sorted := by
  cases Classical.em (FitsWord n) with
  | inl hfits =>
    rw [ofNat, dif_pos hfits]
    exact True.intro
  | inr hfits =>
    rw [ofNat, dif_neg hfits]
    cases Double.ofInt n <;> exact True.intro

@[simp] theorem StreamType.decode_toJson (t : StreamType) : decode t.toJson = .ok t := by
  cases t <;> rfl

theorem StartingPosition.decode_name (p : StartingPosition) : decode (.string p.name) = .ok p := by
  cases p <;> rfl

/-- A text is written as it is, and so is taken for a full name or for a reference as before. -/
theorem StreamArn.decode_toJson_of_decode {v : Json} {arn : StreamArn} (h : decode v = .ok arn) :
    decode arn.toJson = .ok arn := by
  unfold decode at h
  split at h
  · obtain rfl := Except.ok.inj h
    have htext (s : String) : (ofText s).toJson = .string s := by
      unfold ofText
      split_ifs <;> rfl
    rw [htext, decode]
  · obtain rfl := Except.ok.inj h
    rfl
  · cases h

namespace StreamEvent

/-- The fields read so far can be written, and are read again from what is written for them. -/
structure Draft.Sound (d : Draft) : Prop where
  arn : ∀ arn, d.arn = some arn → StreamArn.decode arn.toJson = .ok arn
  batchSize : ∀ n, d.batchSize = some n → (Json.ofNat n).asCount = .ok n
  patterns : ∀ p ∈ d.filterPatterns, p.Sorted

theorem Draft.sound_empty : Draft.empty.Sound := ⟨by simp [empty], by simp [empty], by simp [empty]⟩

theorem Draft.Sound.step {d d' : Draft} {field : String × Json} (hd : d.Sound)
    (hsorted : field.2.Sorted) (h : d.step field = .ok d') : d'.Sound := by
  obtain ⟨key, v⟩ := field
  unfold Draft.step at h
  dsimp only at h
  split_ifs at h
  · obtain ⟨type, -, rfl⟩ := map_eq_ok_iff.1 h
    exact ⟨hd.arn, hd.batchSize, hd.patterns⟩
  · obtain ⟨arn, harn, rfl⟩ := map_eq_ok_iff.1 h
    refine ⟨?_, hd.batchSize, hd.patterns⟩
    rintro _ ⟨⟩
    exact StreamArn.decode_toJson_of_decode harn
  · obtain ⟨enabled, -, rfl⟩ := map_eq_ok_iff.1 h
    exact ⟨hd.arn, hd.batchSize, hd.patterns⟩
  · obtain ⟨count, hcount, rfl⟩ := map_eq_ok_iff.1 h
    refine ⟨hd.arn, ?_, hd.patterns⟩
    rintro n rfl
    exact Json.asCount_ofNat_of_asCount (Json.read_of_asOptional hcount)
  · obtain ⟨position, -, rfl⟩ := map_eq_ok_iff.1 h
    exact ⟨hd.arn, hd.batchSize, hd.patterns⟩
  · obtain ⟨patterns, hpatterns, rfl⟩ := map_eq_ok_iff.1 h
    obtain rfl := Json.asItems_eq_ok_iff.1 hpatterns
    exact ⟨hd.arn, hd.batchSize, Json.sortedItems_iff.1 hsorted⟩
  · obtain rfl := Except.ok.inj h
    exact hd

variable {e : StreamEvent}

def patterns? (e : StreamEvent) : Option (List Json) :=
  if e.filterPatterns.isEmpty then none else some e.filterPatterns

theorem toJson_eq (e : StreamEvent) :
    e.toJson = .object (("arn", e.arn.toJson) :: memberIf "batchSize" Json.ofNat e.batchSize ++
      memberIf "enabled" Json.boolean e.enabled ++ memberIf "filterPatterns" Json.array e.patterns? ++
      memberIf "startingPosition" (fun p : StartingPosition => .string p.name) e.startingPosition ++
      [("type", e.type.toJson)]) := by
  unfold toJson patterns?
  split_ifs <;> rfl

theorem sorted_toJson (hpatterns : ∀ p ∈ e.filterPatterns, p.Sorted) : e.toJson.Sorted := by
  have hkeys : ["arn", "batchSize", "enabled", "filterPatterns", "startingPosition", "type"].Pairwise
      (· < ·) := by decide
  rw [toJson_eq, Json.sorted_object_iff]
  refine ⟨Fields.sorted_of_sublist_keys ?_ hkeys, ?_⟩
  · simp only [List.map_append, List.map_cons, List.map_nil]
    exact ((((keys_memberIf.cons_cons _).append keys_memberIf).append keys_memberIf).append
      keys_memberIf).append (List.Sublist.refl _)
  · intro member hmember
    simp only [List.cons_append, List.mem_cons, List.mem_append, mem_memberIf, List.not_mem_nil,
      or_false] at hmember
    rcases hmember with rfl | (((⟨n, -, rfl⟩ | ⟨b, -, rfl⟩) | ⟨ps, hps, rfl⟩) | ⟨p, -, rfl⟩) | rfl
    · cases e.arn <;> simp [StreamArn.toJson, Json.Sorted, Json.SortedItems]
    · simp only [Json.sorted_ofNat]
    · trivial
    · unfold patterns? at hps
      split_ifs at hps
      obtain rfl := Option.some.inj hps
      exact Json.sortedItems_iff.2 hpatterns
    · trivial
    · cases e.type <;> trivial

/-- The members fill a draft in the order in which they are written. -/
theorem decode_toJson (harn : StreamArn.decode e.arn.toJson = .ok e.arn)
    (hcount : ∀ n, e.batchSize = some n → (Json.ofNat n).asCount = .ok n) :
    decode e.toJson = .ok e := by
  -- every part adds its field to the draft that the parts before it have left
  have hsize : (memberIf "batchSize" Json.ofNat e.batchSize).foldlM Draft.step
      ⟨none, some e.arn, none, none, none, []⟩ =
        .ok ⟨none, some e.arn, none, e.batchSize, none, []⟩ := by
    refine foldlM_memberIf (fun hnone => by rw [hnone]) fun n hn => ?_
    have hread := Json.asOptional_of_ok (by simp [Json.asCount]) (hcount n hn)
    simp [Draft.step, hread, hn]
  have henabled : (memberIf "enabled" Json.boolean e.enabled).foldlM Draft.step
      ⟨none, some e.arn, none, e.batchSize, none, []⟩ =
        .ok ⟨none, some e.arn, e.enabled, e.batchSize, none, []⟩ := by
    refine foldlM_memberIf (fun hnone => by rw [hnone]) fun b hb => ?_
    simp [Draft.step, hb, Json.asOptional, Json.asBoolean]
  have hpatterns : (memberIf "filterPatterns" Json.array e.patterns?).foldlM Draft.step
      ⟨none, some e.arn, e.enabled, e.batchSize, none, []⟩ =
        .ok ⟨none, some e.arn, e.enabled, e.batchSize, none, e.filterPatterns⟩ := by
    unfold patterns?
    split_ifs with hempty
    · simp [memberIf, List.isEmpty_iff.1 hempty]
    · simp [memberIf, Draft.step, Json.asItems]
  have hposition : (memberIf "startingPosition" (fun p : StartingPosition => .string p.name)
      e.startingPosition).foldlM Draft.step
      ⟨none, some e.arn, e.enabled, e.batchSize, none, e.filterPatterns⟩ =
        .ok ⟨none, some e.arn, e.enabled, e.batchSize, e.startingPosition, e.filterPatterns⟩ := by
    refine foldlM_memberIf (fun hnone => by rw [hnone]) fun p hp => ?_
    simp [Draft.step, hp, Json.asOptional, StartingPosition.decode_name]
  have hfirst : Draft.empty.step ("arn", e.arn.toJson) = .ok ⟨none, some e.arn, none, none, none, []⟩ := by
    simp [Draft.step, Draft.empty, harn]
  have hlast (d : Draft) : d.step ("type", e.type.toJson) = .ok { d with type := some e.type } := by
    simp [Draft.step]
  rw [toJson_eq, decode, bind_eq_ok_iff]
  refine ⟨⟨some e.type, some e.arn, e.enabled, e.batchSize, e.startingPosition, e.filterPatterns⟩,
    Shape.read_object_eq_ok_iff.2 ⟨?_, ?_⟩, rfl⟩
  · simp only [List.cons_append, List.foldlM_cons, List.foldlM_append, hfirst, hsize, henabled,
      hpatterns, hposition, hlast, ok_bind, List.foldlM_nil]
    rfl
  · simp only [shape, List.take_succ_cons, List.take_zero, List.forall_mem_cons]
    exact ⟨⟨e.type.toJson, by simp⟩, ⟨e.arn.toJson, by simp⟩, by simp⟩

theorem survives_of_decode {v : Json} (hsorted : v.Sorted) (h : decode v = .ok e) :
    Survives toJson decode e := by
  obtain ⟨d, hread, hfinish⟩ := bind_eq_ok_iff.1 h
  have hd : d.Sound := Shape.read_preserves hsorted Draft.sound_empty
    (fun _ _ _ hfield hd hstep => hd.step hfield hstep) hread
  unfold Draft.finish at hfinish
  split at hfinish
  · rename_i type arn htype harn
    obtain rfl := Except.ok.inj hfinish
    exact ⟨sorted_toJson hd.patterns, decode_toJson (hd.arn arn harn) hd.batchSize⟩
  · cases hfinish
  · cases hfinish

end StreamEvent

namespace EventSource
variable {source : EventSource} {v : Json}

def others (members : List (String × Json)) : List (String × Json) :=
  members.filter fun member => member.1 ≠ streamKey

def readStream (members : List (String × Json)) : Except ContentError (Option StreamEvent) :=
  match Fields.get? streamKey members with
  | some v => v.asOptional StreamEvent.decode
  | none => .ok none

theorem decode_object (members : List (String × Json)) :
    decode (.object members) = (readStream members).map fun stream => ⟨stream, others members⟩ := by
  rw [decode, readStream]
  cases Fields.get? streamKey members with
  | none => rfl
  | some v => cases v.asOptional StreamEvent.decode <;> rfl

theorem decode_eq_ok_iff :
    decode v = .ok source ↔ ∃ members, v = .object members ∧
      readStream members = .ok source.stream ∧ others members = source.other := by
  cases v with
  | object members =>
    simp only [decode_object, map_eq_ok_iff, Json.object.injEq, exists_eq_left']
    constructor
    · rintro ⟨stream, hstream, rfl⟩
      exact ⟨hstream, rfl⟩
    · rintro ⟨hstream, hother⟩
      exact ⟨source.stream, hstream, by rw [hother]⟩
  | _ => simp [decode]

/-- Objects that beside their streams have the same members, in the same order. -/
def SameOthers (v w : Json) : Prop :=
  ∃ members members', v = .object members ∧ w = .object members' ∧ others members' = others members

@[simp] theorem others_others (members : List (String × Json)) : others (others members) = others members := by
  simp only [others, List.filter_filter, Bool.and_self]

theorem sameOthers_of_decode (h : decode v = .ok source) : SameOthers v source.toJson := by
  obtain ⟨members, rfl, -, hother⟩ := decode_eq_ok_iff.1 h
  refine ⟨members, _, rfl, rfl, ?_⟩
  rw [← hother]
  cases source.stream with
  | none => exact others_others members
  | some stream => exact (Fields.filter_insert_self ..).trans (others_others members)

theorem stream_survives_of_decode {stream : StreamEvent} (hsorted : v.Sorted)
    (h : decode v = .ok source) (hstream : source.stream = some stream) :
    Survives StreamEvent.toJson StreamEvent.decode stream := by
  obtain ⟨members, rfl, hread, -⟩ := decode_eq_ok_iff.1 h
  rw [hstream, readStream] at hread
  split at hread
  · rename_i w hw
    have hsorted' := (Json.sorted_object_iff.1 hsorted).2 _ (Fields.mem_of_get? hw)
    exact StreamEvent.survives_of_decode hsorted' (Json.read_of_asOptional hread)
  · cases hread

theorem readStream_others (members : List (String × Json)) : readStream (others members) = .ok none := by
  have hnone : Fields.get? streamKey (others members) = none := by
    rw [Fields.get?, List.lookup_eq_none_iff]
    intro member hmember
    exact bne_iff_ne.2 (Ne.symm (of_decide_eq_true (List.mem_filter.1 hmember).2))
  rw [readStream, hnone]

theorem readStream_insert {stream : StreamEvent} (members : List (String × Json))
    (hstream : Survives StreamEvent.toJson StreamEvent.decode stream) :
    readStream (Fields.insert streamKey stream.toJson members) = .ok (some stream) := by
  rw [readStream, Fields.get?_insert_self]
  exact Json.asOptional_of_ok (by simp [StreamEvent.decode, Shape.read, Shape.given]) hstream.read_eq

theorem survives_of_decode (hsorted : v.Sorted) (h : decode v = .ok source) :
    Survives toJson decode source := by
  have hstream : ∀ stream, source.stream = some stream →
      Survives StreamEvent.toJson StreamEvent.decode stream :=
    fun _ => stream_survives_of_decode hsorted h
  obtain ⟨members, rfl, -, hother⟩ := decode_eq_ok_iff.1 h
  obtain ⟨hfields, hmembers⟩ := Json.sorted_object_iff.1 hsorted
  obtain ⟨stream, other⟩ := source
  obtain rfl : others members = other := hother
  have hotherFields : Fields.Sorted (others members) := List.Pairwise.filter _ hfields
  have hotherMembers : ∀ member ∈ others members, member.2.Sorted := fun member hmember =>
    hmembers member (List.mem_of_mem_filter hmember)
  cases stream with
  | none =>
    exact ⟨Json.sorted_object_iff.2 ⟨hotherFields, hotherMembers⟩,
      decode_eq_ok_iff.2 ⟨_, rfl, readStream_others members, others_others members⟩⟩
  | some stream =>
    constructor
    · refine Json.sorted_object_iff.2 ⟨Fields.sorted_insert _ _ hotherFields, fun member hmember => ?_⟩
      rcases Fields.mem_insert hmember with rfl | hmember
      · exact (hstream _ rfl).sorted
      · exact hotherMembers member hmember
    · exact decode_eq_ok_iff.2 ⟨_, rfl, readStream_insert _ (hstream _ rfl),
        (Fields.filter_insert_self ..).trans (others_others members)⟩

end EventSource

namespace ServiceFunction
variable {f : ServiceFunction} {v : Json}

def sources (v : Json) : List Json :=
  match shape.field? "events" v with
  | some (.array items) => items
  | _ => []

theorem sorted_of_mem_sources (hsorted : v.Sorted) : ∀ w ∈ sources v, w.Sorted := by
  intro w hw
  unfold sources at hw
  split at hw
  · rename_i items hitems
    exact Json.sortedItems_iff.1 (Shape.sorted_of_field? hsorted hitems) w hw
  · exact absurd hw List.not_mem_nil

theorem mapM_sources_of_decode (h : decode v = .ok f) :
    (sources v).mapM EventSource.decode = .ok f.events := by
  have hevents := Shape.part_of_read ServiceFunction.events
    (fun w events => ∃ items, w = .array items ∧ items.mapM EventSource.decode = .ok events) "events"
    ?_ ?_ h
  · unfold sources
    split at hevents
    · rename_i w hw
      obtain ⟨items, rfl, hitems⟩ := hevents
      rw [hw]
      exact hitems
    · rename_i hnone
      rw [hnone, hevents]
      rfl
  · intro f f' w hstep
    simp only [step, String.reduceEq, if_false, if_true, bind_eq_ok_iff, pure_eq_ok_iff] at hstep
    obtain ⟨items, hitems, events, hevents, rfl⟩ := hstep
    exact ⟨items, Json.asItems_eq_ok_iff.1 hitems, hevents⟩
  · intro f f' field hne hstep
    obtain ⟨key, w⟩ := field
    unfold step at hstep
    dsimp only at hstep hne
    split_ifs at hstep
    · obtain ⟨_, -, rfl⟩ := map_eq_ok_iff.1 hstep
      rfl
    · obtain ⟨_, -, rfl⟩ := map_eq_ok_iff.1 hstep
      rfl
    · obtain rfl := Except.ok.inj hstep
      rfl

theorem sources_toJson (f : ServiceFunction) : sources f.toJson = f.events.map EventSource.toJson := by
  obtain ⟨name, handler, events⟩ := f
  cases name <;> cases handler <;> rfl

theorem sorted_toJson (hevents : ∀ event ∈ f.events, event.toJson.Sorted) : f.toJson.Sorted := by
  have hkeys : ["events", "handler", "name"].Pairwise (· < ·) := by decide
  refine Json.sorted_object_iff.2 ⟨Fields.sorted_of_sublist_keys ?_ hkeys, ?_⟩
  · simp only [List.map_append, List.map_cons]
    exact (keys_memberIf.cons_cons _).append keys_memberIf
  · intro member hmember
    simp only [List.cons_append, List.mem_cons, List.mem_append, mem_memberIf] at hmember
    rcases hmember with rfl | ⟨handler, -, rfl⟩ | ⟨name, -, rfl⟩
    · exact Json.sortedItems_iff.2 (List.forall_mem_map.2 hevents)
    · trivial
    · trivial

theorem decode_toJson (hevents : ∀ event ∈ f.events, Survives EventSource.toJson EventSource.decode event) :
    decode f.toJson = .ok f := by
  have hfirst : step ⟨none, none, []⟩ ("events", .array (f.events.map EventSource.toJson)) =
      .ok ⟨none, none, f.events⟩ := by
    simp [step, Json.asItems, mapM_of_survives hevents, pure, Except.pure]
  have hhandler : (memberIf "handler" Json.string f.handler).foldlM step ⟨none, none, f.events⟩ =
      .ok ⟨none, f.handler, f.events⟩ := by
    refine foldlM_memberIf (fun hnone => by rw [hnone]) fun handler hhandler => ?_
    simp [step, hhandler, Json.asOptional, Json.asString]
  have hname : (memberIf "name" Json.string f.name).foldlM step ⟨none, f.handler, f.events⟩ = .ok f := by
    refine foldlM_memberIf (fun hnone => by rw [← hnone]) fun name hname => ?_
    simp [step, ← hname, Json.asOptional, Json.asString]
  refine Shape.read_object_eq_ok_iff.2 ⟨?_, by simp [shape]⟩
  simp only [List.cons_append, List.foldlM_cons, List.foldlM_append, hfirst, hhandler, hname, ok_bind]

theorem survives_of_decode (hsorted : v.Sorted) (h : decode v = .ok f) : Survives toJson decode f := by
  have hevents : ∀ event ∈ f.events, Survives EventSource.toJson EventSource.decode event := by
    intro event hevent
    obtain ⟨w, hw, hread⟩ :=
      exists_left_of_forall₂ (mapM_eq_ok_iff.1 (mapM_sources_of_decode h)) hevent
    exact EventSource.survives_of_decode (sorted_of_mem_sources hsorted w hw) hread
  exact ⟨sorted_toJson fun event hevent => (hevents event hevent).sorted, decode_toJson hevents⟩

/-- The event sources are written in their order, and each with what it has beside its stream. -/
theorem sameOthers_of_decode (h : decode v = .ok f) :
    List.Forall₂ EventSource.SameOthers (sources v) (sources f.toJson) := by
  rw [sources_toJson, List.forall₂_map_right_iff]
  exact (mapM_eq_ok_iff.1 (mapM_sources_of_decode h)).imp fun _ _ =>
    EventSource.sameOthers_of_decode

end ServiceFunction

namespace Service
variable {s : Service} {v : Json}

def entries (v : Json) : List (String × Json) :=
  match shape.field? "functions" v with
  | some (.object members) => members
  | _ => []

theorem sorted_of_mem_entries (hsorted : v.Sorted) : ∀ entry ∈ entries v, entry.2.Sorted := by
  intro entry hentry
  unfold entries at hentry
  split at hentry
  · rename_i members hmembers
    exact (Json.sorted_object_iff.1 (Shape.sorted_of_field? hsorted hmembers)).2 entry hentry
  · exact absurd hentry List.not_mem_nil

theorem mapM_entries_of_decode (h : decode v = .ok s) : (entries v).mapM decodeEntry = .ok s.functions := by
  have hfunctions := Shape.part_of_read Service.functions
    (fun w functions => ∃ members, w = .object members ∧ members.mapM decodeEntry = .ok functions)
    "functions" ?_ ?_ h
  · unfold entries
    split at hfunctions
    · rename_i w hw
      obtain ⟨members, rfl, hmembers⟩ := hfunctions
      rw [hw]
      exact hmembers
    · rename_i hnone
      rw [hnone, hfunctions]
      rfl
  · intro s s' w hstep
    simp only [step, if_true, bind_eq_ok_iff, pure_eq_ok_iff] at hstep
    obtain ⟨members, hmembers, functions, hfunctions, rfl⟩ := hstep
    exact ⟨members, Json.asMembers_eq_ok_iff.1 hmembers, hfunctions⟩
  · intro s s' field hne hstep
    obtain ⟨key, w⟩ := field
    unfold step at hstep
    dsimp only at hstep hne
    rw [if_neg hne] at hstep
    split_ifs at hstep
    · obtain rfl := Except.ok.inj hstep
      rfl
    · obtain rfl := Except.ok.inj hstep
      rfl

theorem sorted_resources_of_decode (hsorted : v.Sorted) (h : decode v = .ok s) : s.resources.Sorted := by
  refine Shape.read_preserves (P := fun s => s.resources.Sorted) hsorted trivial ?_ h
  intro s s' field hfield hs hstep
  obtain ⟨key, w⟩ := field
  unfold step at hstep
  dsimp only at hstep
  split_ifs at hstep
  · obtain ⟨_, _, hstep⟩ := bind_eq_ok_iff.1 hstep
    obtain ⟨_, _, hstep⟩ := bind_eq_ok_iff.1 hstep
    cases hstep
    exact hs
  · cases hstep
    exact hfield
  · cases hstep
    exact hs

theorem sorted_toJson (hfunctions : Fields.Sorted s.functions)
    (hentries : ∀ entry ∈ s.functions, entry.2.toJson.Sorted) (hresources : s.resources.Sorted) :
    s.toJson.Sorted := by
  have hkeys : ["functions", "resources"].Pairwise (· < ·) := by decide
  refine Json.sorted_object_iff.2 ⟨List.pairwise_map.1 hkeys, ?_⟩
  simp only [List.forall_mem_cons, Json.sorted_object_iff]
  exact ⟨⟨Fields.sorted_map hfunctions _, List.forall_mem_map.2 hentries⟩, hresources, by simp⟩

theorem decode_toJson
    (hfunctions : ∀ entry ∈ s.functions, Survives ServiceFunction.toJson ServiceFunction.decode entry.2) :
    decode s.toJson = .ok s := by
  have hentries : (s.functions.map fun entry => (entry.1, entry.2.toJson)).mapM decodeEntry =
      .ok s.functions := by
    rw [mapM_eq_ok_iff, List.forall₂_map_left_iff, List.forall₂_same]
    intro entry hentry
    simp [decodeEntry, (hfunctions entry hentry).read_eq]
  refine Shape.read_object_eq_ok_iff.2 ⟨?_, by simp [shape]⟩
  simp [step, Json.asMembers, hentries, pure, Except.pure]

theorem entries_toJson (s : Service) :
    entries s.toJson = s.functions.map fun entry => (entry.1, entry.2.toJson) := rfl

/--
A service that was read is written as a value that is read as the same service. Its functions are written
in their order and under their keys, and the event sources of each in their order, with all that they have
beside their streams.
-/
theorem written_is_read_as_same (hsorted : v.Sorted) (h : decode v = .ok s) :
    s.toJson.Sorted ∧ decode s.toJson = .ok s ∧
      List.Forall₂ (fun entry entry' => entry'.1 = entry.1 ∧
        List.Forall₂ EventSource.SameOthers (ServiceFunction.sources entry.2)
          (ServiceFunction.sources entry'.2)) (entries v) (entries s.toJson) := by
  have hpairs := mapM_eq_ok_iff.1 (mapM_entries_of_decode h)
  have hfunctions : ∀ entry ∈ s.functions,
      Survives ServiceFunction.toJson ServiceFunction.decode entry.2 := by
    intro entry hentry
    obtain ⟨member, hmember, hread⟩ := exists_left_of_forall₂ hpairs hentry
    obtain ⟨f, hf, rfl⟩ := map_eq_ok_iff.1 hread
    exact ServiceFunction.survives_of_decode (sorted_of_mem_entries hsorted member hmember) hf
  refine ⟨?_, decode_toJson hfunctions, ?_⟩
  · exact sorted_toJson (IsDecoded.value hsorted h).sorted_functions
      (fun entry hentry => (hfunctions entry hentry).sorted) (sorted_resources_of_decode hsorted h)
  · rw [entries_toJson, List.forall₂_map_right_iff]
    refine hpairs.imp fun member entry hread => ?_
    obtain ⟨f, hf, rfl⟩ := map_eq_ok_iff.1 hread
    exact ⟨rfl, ServiceFunction.sameOthers_of_decode hf⟩

/-- Arrays for structures, an unknown field, a type that is not known, and `null` for what is absent. -/
theorem written_is_read_as_same_from_arrays :
    let stream := Json.object [("arn", .array [.string "Users", .string "StreamArn"]),
      ("batchSize", .null), ("colour", .string "red"), ("type", .object [("sqs", .null)])]
    let stream' := Json.object [("arn", .array [.string "Users", .string "StreamArn"]),
      ("type", .string "Other")]
    let source := Json.object [("http", .string "GET"), ("stream", stream)]
    let source' := Json.object [("http", .string "GET"), ("stream", stream')]
    let v := Json.array [.object [("watch", .array [.null, .string "main", .array [source]])], .null]
    let s : Service := ⟨[("watch", ⟨none, some "main",
      [⟨some ⟨.other, .property "Users" "StreamArn", none, none, none, []⟩,
        [("http", .string "GET")]⟩]⟩)], .null⟩
    v.Sorted ∧ decode v = .ok s ∧ decode s.toJson = .ok s ∧ EventSource.SameOthers source source' := by
  intro stream stream' source source' v s
  have hstream : ["arn", "batchSize", "colour", "type"].Pairwise (· < ·) := by decide
  have hsource : ["http", "stream"].Pairwise (· < ·) := by decide
  have hsorted : v.Sorted := by
    simpa [v, source, stream, Json.Sorted, Json.SortedMembers, Json.SortedItems, Fields.Sorted]
      using And.intro hsource hstream
  have hread : decode v = .ok s := rfl
  obtain ⟨-, hwritten, hfunctions⟩ := written_is_read_as_same hsorted hread
  obtain ⟨-, hsources⟩ := (List.forall₂_cons.1 hfunctions).1
  exact ⟨hsorted, hread, hwritten, (List.forall₂_cons.1 hsources).1⟩

end Service

end ChangeSieve
