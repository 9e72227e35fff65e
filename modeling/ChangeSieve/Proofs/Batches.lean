import ChangeSieve.Delivery
import Mathlib.Algebra.Order.Floor.Div

/-!
Delivery in batches. A delivery is a run of rounds, one for each batch. Every round keeps the output,
the count and the reported events in agreement with the records that were consumed, so the size of
the batches shows only in the summaries.
-/
namespace ChangeSieve

/-! How a list is cut. -/

section Cuts
variable {α : Type} {size : Nat}

/-- Past the length of the list a greater bound cuts nothing more. -/
theorem batchesUpTo_congr (hsize : 0 < size) {n m : Nat} {as : List α} (hn : as.length ≤ n)
    (hm : as.length ≤ m) : batchesUpTo size n as = batchesUpTo size m as := by
  induction n generalizing m as with
  | zero =>
    obtain rfl := List.length_eq_zero_iff.1 (Nat.le_zero.1 hn)
    cases m <;> rfl
  | succ n ih =>
    cases m with
    | zero =>
      obtain rfl := List.length_eq_zero_iff.1 (Nat.le_zero.1 hm)
      rfl
    | succ m =>
      have hrest : (as.drop size).length = as.length - size := List.length_drop
      unfold batchesUpTo
      split
      · rfl
      · rw [ih (m := m) (by omega) (by omega)]

/-- While anything is left, one more batch is cut from the front. -/
theorem batches_of_ne_nil (size : Nat) {as : List α} (has : as ≠ []) :
    batches size as = as.take (max size 1) :: batches size (as.drop (max size 1)) := by
  have hlength : 0 < as.length := List.length_pos_iff.2 has
  have hrest : (as.drop (max size 1)).length = as.length - max size 1 := List.length_drop
  obtain ⟨n, hn⟩ : ∃ n, as.length = n + 1 := ⟨as.length - 1, by omega⟩
  unfold batches
  rw [hn, batchesUpTo, if_neg (by simpa using has)]
  rw [batchesUpTo_congr (by omega) (m := (as.drop (max size 1)).length) (by omega) le_rfl]

/-- What holds of no batches, and of one more batch in front of what is left, holds of all batches. -/
theorem batches_induction {motive : List α → List (List α) → Prop} (nil : motive [] [])
    (cut : ∀ as, as ≠ [] → motive (as.drop (max size 1)) (batches size (as.drop (max size 1))) →
      motive as (as.take (max size 1) :: batches size (as.drop (max size 1))))
    (as : List α) : motive as (batches size as) := by
  induction hlength : as.length using Nat.strong_induction_on generalizing as with
  | _ n ih =>
    by_cases has : as = []
    · subst has
      exact nil
    · rw [batches_of_ne_nil size has]
      apply cut as has
      have hpos : 0 < as.length := List.length_pos_iff.2 has
      have hrest : (as.drop (max size 1)).length = as.length - max size 1 := List.length_drop
      exact ih _ (by omega) _ rfl

theorem batches_flatten (size : Nat) (as : List α) : (batches size as).flatten = as := by
  apply batches_induction (motive := fun as cut => cut.flatten = as)
  · rfl
  · intro as _ ih
    rw [List.flatten_cons, ih, List.take_append_drop]

theorem length_le_of_mem_batches {as batch : List α} (h : batch ∈ batches size as) :
    batch.length ≤ max size 1 := by
  revert h
  apply batches_induction (motive := fun _ cut => batch ∈ cut → batch.length ≤ max size 1)
  · intro h
    cases h
  · intro as _ ih h
    rcases List.mem_cons.1 h with rfl | h
    · exact List.length_take_le _ _
    · exact ih h

/-- There are as many batches as are needed for their size. -/
theorem length_batches (size : Nat) (as : List α) :
    (batches size as).length = as.length ⌈/⌉ max size 1 := by
  apply batches_induction (motive := fun as cut => cut.length = as.length ⌈/⌉ max size 1)
  · rw [Nat.ceilDiv_eq_add_pred_div, List.length_nil, List.length_nil, Nat.div_eq_of_lt (by omega)]
  · intro as has ih
    have hpos : 0 < as.length := List.length_pos_iff.2 has
    have hsize : 0 < max size 1 := by omega
    rw [List.length_cons, ih, List.length_drop, Nat.ceilDiv_eq_add_pred_div,
      Nat.ceilDiv_eq_add_pred_div,
      Nat.div_eq_sub_div (a := as.length + max size 1 - 1) hsize (by omega)]
    congr 1
    -- With less than a batch left both quotients are 0; else the numerators are the same.
    by_cases hlast : as.length < max size 1
    · rw [Nat.div_eq_of_lt (by omega), Nat.div_eq_of_lt (by omega)]
    · congr 1
      omega

end Cuts

/-! What a delivery reports. -/

structure Log.Summary where
  received : Nat
  allowed : Nat
  dropped : Nat

namespace Log

def Summary.event (summary : Summary) : Event :=
  .batchFiltered summary.received summary.allowed summary.dropped

def Event.summary? : Event → Option Summary
  | .batchFiltered received allowed dropped => some ⟨received, allowed, dropped⟩
  | _ => none

end Log

def Delivered.summaries (done : Delivered) : List Log.Summary := done.events.filterMap Log.Event.summary?

def Delivered.eventsAt (level : Log.Level) (done : Delivered) : List Log.Event :=
  done.events.filter (·.level = level)

namespace DeliveryFilter
variable {filter : DeliveryFilter} {size rounds : Nat} {seen batch : List Record} {done : Delivered}

def reject (filter : DeliveryFilter) (batch : List Record) : List Record :=
  batch.filter fun r => !filter.allows r

theorem length_keep_add_reject (filter : DeliveryFilter) (batch : List Record) :
    (filter.keep batch).length + (filter.reject batch).length = batch.length :=
  (List.length_eq_length_filter_add filter.allows).symm

def summary (filter : DeliveryFilter) (batch : List Record) : Log.Summary :=
  ⟨batch.length, (filter.keep batch).length, batch.length - (filter.keep batch).length⟩

theorem batchEvents_eq (filter : DeliveryFilter) (batch : List Record) :
    filter.batchEvents batch =
      (filter.reject batch).map filter.dropEvent ++ [(filter.summary batch).event] := rfl

/-- One round of a delivery: what a batch keeps is written and counted, and its events are reported. -/
def round (filter : DeliveryFilter) (done : Delivered) (batch : List Record) : Delivered where
  output := done.output ++ String.join ((filter.keep batch).map Record.line)
  count := done.count + (filter.keep batch).length
  events := done.events ++ filter.batchEvents batch

theorem foldl_round (filter : DeliveryFilter) (cut : List (List Record)) (done : Delivered) :
    cut.foldl filter.round done =
      { output := done.output ++ String.join ((cut.flatMap filter.keep).map Record.line)
        count := done.count + (cut.flatMap filter.keep).length
        events := done.events ++ cut.flatMap filter.batchEvents } := by
  induction cut generalizing done with
  | nil => simp
  | cons batch rest ih =>
    rw [List.foldl_cons, ih]
    simp [round, String.append_assoc, Nat.add_assoc]

/-- A delivery runs through its batches from nothing written, counted or reported. -/
theorem deliver_eq_foldl (filter : DeliveryFilter) (size : Nat) (records : List Record) :
    filter.deliver size records = (batches size records).foldl filter.round ⟨"", 0, []⟩ := by
  rw [foldl_round]
  simp [deliver]

/-! The books of a delivery. -/

/--
What was written, counted and reported agrees with the records that were consumed, in rounds of a
size or less.
-/
structure Balanced (filter : DeliveryFilter) (size rounds : Nat) (seen : List Record)
    (done : Delivered) : Prop where
  output : done.output = String.join ((filter.keep seen).map Record.line)
  count : done.count = (filter.keep seen).length
  drops : done.eventsAt .debug = (filter.reject seen).map filter.dropEvent
  infos : done.eventsAt .info = done.summaries.map Log.Summary.event
  events : done.events.length = (filter.reject seen).length + rounds
  batches : done.summaries.length = rounds
  bounded : ∀ s ∈ done.summaries, s.received ≤ size ∧ s.received = s.allowed + s.dropped
  received : (done.summaries.map Log.Summary.received).sum = seen.length
  allowed : (done.summaries.map Log.Summary.allowed).sum = done.count
  dropped : (done.summaries.map Log.Summary.dropped).sum = seen.length - done.count

theorem summaries_round (filter : DeliveryFilter) (done : Delivered) (batch : List Record) :
    (filter.round done batch).summaries = done.summaries ++ [filter.summary batch] := by
  have hdrops : ((filter.reject batch).map filter.dropEvent).filterMap Log.Event.summary? = [] := by
    rw [List.filterMap_map]
    exact List.filterMap_eq_nil_iff.2 fun r _ => rfl
  simp only [Delivered.summaries, round, batchEvents_eq, List.filterMap_append, hdrops,
    List.nil_append]
  rfl

theorem eventsAt_debug_round (filter : DeliveryFilter) (done : Delivered) (batch : List Record) :
    (filter.round done batch).eventsAt .debug =
      done.eventsAt .debug ++ (filter.reject batch).map filter.dropEvent := by
  have hdrops : ((filter.reject batch).map filter.dropEvent).filter (·.level = .debug) =
      (filter.reject batch).map filter.dropEvent :=
    List.filter_eq_self.2 fun event hevent => by
      obtain ⟨r, _, rfl⟩ := List.mem_map.1 hevent
      rfl
  simp only [Delivered.eventsAt, round, batchEvents_eq, List.filter_append, hdrops]
  rw [← List.append_assoc]
  exact List.append_nil _

theorem eventsAt_info_round (filter : DeliveryFilter) (done : Delivered) (batch : List Record) :
    (filter.round done batch).eventsAt .info =
      done.eventsAt .info ++ [(filter.summary batch).event] := by
  have hdrops : ((filter.reject batch).map filter.dropEvent).filter (·.level = .info) = [] :=
    List.filter_eq_nil_iff.2 fun event hevent => by
      obtain ⟨r, _, rfl⟩ := List.mem_map.1 hevent
      exact Bool.false_ne_true
  simp only [Delivered.eventsAt, round, batchEvents_eq, List.filter_append, hdrops,
    List.nil_append]
  rfl

theorem balanced_start (filter : DeliveryFilter) (size : Nat) :
    Balanced filter size 0 [] ⟨"", 0, []⟩ := by
  constructor <;> simp [keep, reject, Delivered.eventsAt, Delivered.summaries]

theorem Balanced.round (h : Balanced filter size rounds seen done) (hbatch : batch.length ≤ size) :
    Balanced filter size (rounds + 1) (seen ++ batch) (filter.round done batch) := by
  have hkeep : filter.keep (seen ++ batch) = filter.keep seen ++ filter.keep batch :=
    List.filter_append _ _
  have hreject : filter.reject (seen ++ batch) = filter.reject seen ++ filter.reject batch :=
    List.filter_append _ _
  have hseen := filter.length_keep_add_reject seen
  have hsplit := filter.length_keep_add_reject batch
  have hcount : (filter.round done batch).count = done.count + (filter.keep batch).length := rfl
  have htotal := h.count
  constructor
  · simp only [DeliveryFilter.round, h.output, hkeep, List.map_append, String.join_append]
  · rw [hcount, hkeep, List.length_append, htotal]
  · rw [eventsAt_debug_round, h.drops, hreject, List.map_append]
  · rw [eventsAt_info_round, h.infos, summaries_round, List.map_append]
    rfl
  · simp only [DeliveryFilter.round, batchEvents_eq, List.length_append, List.length_map,
      List.length_singleton, h.events, hreject]
    omega
  · rw [summaries_round, List.length_append, h.batches, List.length_singleton]
  · rw [summaries_round]
    refine List.forall_mem_append.2 ⟨h.bounded, List.forall_mem_singleton.2 ⟨hbatch, ?_⟩⟩
    unfold summary
    dsimp only
    omega
  · rw [summaries_round, List.map_append, List.sum_append, h.received, List.length_append]
    rfl
  · rw [summaries_round, List.map_append, List.sum_append, h.allowed, hcount]
    rfl
  · rw [summaries_round, List.map_append, List.sum_append, h.dropped, hcount, List.length_append]
    change seen.length - done.count + (batch.length - (filter.keep batch).length + 0) = _
    omega

theorem Balanced.foldl_round {cut : List (List Record)} (h : Balanced filter size rounds seen done)
    (hcut : ∀ batch ∈ cut, batch.length ≤ size) :
    Balanced filter size (rounds + cut.length) (seen ++ cut.flatten) (cut.foldl filter.round done) := by
  induction cut generalizing rounds seen done with
  | nil => simpa using h
  | cons batch rest ih =>
    obtain ⟨hbatch, hrest⟩ := List.forall_mem_cons.1 hcut
    have hnext := ih (h.round hbatch) hrest
    rwa [List.append_assoc, ← List.flatten_cons, Nat.add_assoc, Nat.add_comm 1] at hnext

theorem balanced_deliver (filter : DeliveryFilter) (size : Nat) (records : List Record) :
    Balanced filter (max size 1) (records.length ⌈/⌉ max size 1) records
      (filter.deliver size records) := by
  have hcut : ∀ batch ∈ batches size records, batch.length ≤ max size 1 :=
    fun batch hbatch => length_le_of_mem_batches hbatch
  have hrun := (balanced_start filter (max size 1)).foldl_round hcut
  rw [Nat.zero_add, List.nil_append, batches_flatten, length_batches] at hrun
  rwa [deliver_eq_foldl]

/-- Batches do not show in the output. -/
theorem deliver_output (filter : DeliveryFilter) (size : Nat) (rs : List Record) :
    (filter.deliver size rs).output = String.join ((filter.keep rs).map Record.line) :=
  (filter.balanced_deliver size rs).output

/--
Batches of any size deliver the same records. What is written and counted does not depend on the
size, and the summaries of the batches add up to it. Without patterns nothing is dropped.
-/
theorem deliver_alike_in_batches (filter : DeliveryFilter) (size : Nat) (records : List Record) :
    Balanced filter (max size 1) (records.length ⌈/⌉ max size 1) records
        (filter.deliver size records) ∧
      (∀ other, (filter.deliver other records).output = (filter.deliver size records).output ∧
        (filter.deliver other records).count = (filter.deliver size records).count) ∧
      (filter.patterns = [] → (filter.deliver size records).eventsAt .debug = []) := by
  have h := filter.balanced_deliver size records
  refine ⟨h, fun other => ?_, fun hnone => ?_⟩
  · have h' := filter.balanced_deliver other records
    exact ⟨h'.output.trans h.output.symm, h'.count.trans h.count.symm⟩
  · have hallows : ∀ r, filter.allows r = true := by
      intro r
      unfold allows
      rw [hnone]
      rfl
    have hreject : filter.reject records = [] :=
      List.filter_eq_nil_iff.2 fun r _ => by simp [hallows]
    rw [h.drops, hreject, List.map_nil]

/-- Three records in batches of two: the second one is dropped, and the last batch is not full. -/
theorem deliver_in_two_batches :
    let filter : DeliveryFilter := ⟨[⟨[("a", .leaf (.rules [.presence true]))]⟩]⟩
    let records := [.object [("a", .null)], .string "a", .object [("a", .boolean true)]]
    Balanced filter 2 2 records (filter.deliver 2 records) ∧
      (filter.deliver 2 records).count = 2 ∧
      (filter.deliver 2 records).summaries = [⟨2, 1, 1⟩, ⟨1, 1, 0⟩] ∧
      (filter.deliver 0 records).output = (filter.deliver 2 records).output := by
  intro filter records
  obtain ⟨hbalanced, halike, _⟩ := filter.deliver_alike_in_batches 2 records
  have hrounds : records.length ⌈/⌉ max 2 1 = 2 := by decide
  rw [hrounds] at hbalanced
  exact ⟨hbalanced, rfl, rfl, (halike 0).1⟩

end DeliveryFilter

end ChangeSieve
