import ChangeSieve.CommandLine.Run
import ChangeSieve.Proofs.Batches

/-!
Work, and what it leaves behind when a fault ends it. Work that prints nothing while it can still
fail, and cannot fail once it prints, is all or nothing: a fault finds the output as it was. The jobs
are of this kind.
-/
namespace ChangeSieve.CommandLine

namespace Work

variable {α β : Type} {w : Work α} {k : α → Work β} {a : α} {failure : Failure} {t t' : Transcript}

/-! What work does to a transcript. -/

@[simp] theorem run_ofExcept_ok : (ofExcept (.ok a)).run t = .ok a t := rfl

@[simp] theorem run_ofExcept_error :
    (ofExcept (.error failure) : Work α).run t = .error failure t := rfl

@[simp] theorem run_report {event : Log.Event} :
    (report event).run t = .ok () { t with events := t.events ++ [event] } := rfl

@[simp] theorem run_print {text : String} :
    (print text).run t = .ok () { t with stdout := t.stdout ++ text } := rfl

theorem run_bind_of_ok (h : w.run t = .ok a t') : (w >>= k).run t = (k a).run t' := by
  rw [EStateM.run_bind, h]

theorem run_bind_of_error (h : w.run t = .error failure t') :
    (w >>= k).run t = .error failure t' := by
  rw [EStateM.run_bind, h]

/-- Work in two parts fails in the first one, or in the second one after the first. -/
theorem run_bind_eq_error_iff : (w >>= k).run t = .error failure t' ↔
    w.run t = .error failure t' ∨
      ∃ a mid, w.run t = .ok a mid ∧ (k a).run mid = .error failure t' := by
  cases h : w.run t with
  | ok a mid => simp [run_bind_of_ok h]
  | error failure mid => simp [run_bind_of_error h]

theorem run_bind_eq_ok_iff {b : β} : (w >>= k).run t = .ok b t' ↔
    ∃ a mid, w.run t = .ok a mid ∧ (k a).run mid = .ok b t' := by
  cases h : w.run t with
  | ok a mid => simp [run_bind_of_ok h]
  | error failure mid => simp [run_bind_of_error h]

theorem run_forM_report (events : List Log.Event) (t : Transcript) :
    (events.forM report).run t = .ok () { t with events := t.events ++ events } := by
  induction events generalizing t with
  | nil => simp
  | cons event rest ih =>
    calc ((event :: rest).forM report).run t
      _ = (rest.forM report).run { t with events := t.events ++ [event] } :=
        run_bind_of_ok run_report
      _ = _ := by rw [ih, List.append_assoc, List.singleton_append]

theorem run_forM_print (text : α → String) (as : List α) (t : Transcript) :
    (as.forM fun a => print (text a)).run t =
      .ok () { t with stdout := t.stdout ++ String.join (as.map text) } := by
  induction as generalizing t with
  | nil => simp
  | cons a rest ih =>
    calc ((a :: rest).forM fun a => print (text a)).run t
      _ = (rest.forM fun a => print (text a)).run { t with stdout := t.stdout ++ text a } :=
        run_bind_of_ok run_print
      _ = _ := by rw [ih, String.append_assoc, List.map_cons, String.join_cons]

/-! All or nothing. -/

/-- Work that prints nothing, whether or not it fails. -/
structure Silent (w : Work α) : Prop where
  ok : ∀ {t a t'}, w.run t = .ok a t' → t'.stdout = t.stdout
  error : ∀ {t failure t'}, w.run t = .error failure t' → t'.stdout = t.stdout

def Sure (w : Work α) : Prop := ∀ t failure t', w.run t ≠ .error failure t'

/-- Work that has printed nothing when a fault ends it. -/
def AllOrNothing (w : Work α) : Prop :=
  ∀ t failure t', w.run t = .error failure t' → t'.stdout = t.stdout

theorem silent_ofExcept (result : Except Failure α) : Silent (ofExcept result) := by
  cases result with
  | ok a => exact ⟨by rintro t _ _ ⟨⟩; rfl, nofun⟩
  | error failure => exact ⟨nofun, by rintro t _ _ ⟨⟩; rfl⟩

theorem silent_report (event : Log.Event) : Silent (report event) :=
  ⟨by rintro t _ _ ⟨⟩; rfl, nofun⟩

theorem silent_forM_report (events : List Log.Event) : Silent (events.forM report) := by
  constructor
  · intro t a t' h
    cases (run_forM_report events t).symm.trans h
    rfl
  · intro t failure t' h
    cases (run_forM_report events t).symm.trans h

theorem Silent.bind (hw : Silent w) (hk : ∀ a, Silent (k a)) : Silent (w >>= k) := by
  constructor
  · intro t b t' h
    obtain ⟨a, mid, hfirst, hsecond⟩ := run_bind_eq_ok_iff.1 h
    exact ((hk a).ok hsecond).trans (hw.ok hfirst)
  · intro t failure t' h
    rcases run_bind_eq_error_iff.1 h with hfirst | ⟨a, mid, hfirst, hsecond⟩
    · exact hw.error hfirst
    · exact ((hk a).error hsecond).trans (hw.ok hfirst)

theorem sure_of_run (h : ∀ t, ∃ a t', w.run t = .ok a t') : Sure w := by
  intro t failure t' hfail
  obtain ⟨a, mid, hrun⟩ := h t
  cases hrun.symm.trans hfail

theorem Sure.bind (hw : Sure w) (hk : ∀ a, Sure (k a)) : Sure (w >>= k) := by
  intro t failure t' h
  rcases run_bind_eq_error_iff.1 h with hfirst | ⟨a, mid, _, hsecond⟩
  · exact hw _ _ _ hfirst
  · exact hk a _ _ _ hsecond

theorem Sure.allOrNothing (h : Sure w) : AllOrNothing w :=
  fun t failure t' hfail => absurd hfail (h t failure t')

/-- What is silent may stand in front: whether or not it fails, nothing is printed. -/
theorem Silent.allOrNothing_bind (hw : Silent w) (hk : ∀ a, AllOrNothing (k a)) :
    AllOrNothing (w >>= k) := by
  intro t failure t' h
  rcases run_bind_eq_error_iff.1 h with hfirst | ⟨a, mid, hfirst, hsecond⟩
  · exact hw.error hfirst
  · exact (hk a _ _ _ hsecond).trans (hw.ok hfirst)

end Work

open Work

/-! The jobs read before they print. -/

theorem run_deliverBatches (filter : DeliveryFilter) (cut : List (List Record)) (t : Transcript) :
    (deliverBatches filter cut).run t = .ok (cut.flatMap filter.keep).length
      { events := t.events ++ cut.flatMap filter.batchEvents
        stdout := t.stdout ++ String.join ((cut.flatMap filter.keep).map Record.line) } := by
  induction cut generalizing t with
  | nil => simp [deliverBatches]
  | cons batch rest ih =>
    rw [deliverBatches, run_bind_of_ok (run_forM_report _ t),
      run_bind_of_ok (run_forM_print Record.line _ _), run_bind_of_ok (ih _)]
    simp [String.append_assoc]

/-- Batch by batch a job prints, counts and reports what a delivery does. -/
theorem run_deliverBatches_batches (filter : DeliveryFilter) (size : Nat) (rs : List Record)
    (t : Transcript) :
    (deliverBatches filter (batches size rs)).run t = .ok (filter.deliver size rs).count
      { events := t.events ++ (filter.deliver size rs).events
        stdout := t.stdout ++ (filter.deliver size rs).output } :=
  run_deliverBatches filter (batches size rs) t

theorem silent_findSources (settings : Settings) (service : Service) :
    Silent (findSources settings service) := by
  unfold findSources
  split
  · exact (silent_forM_report _).bind fun _ => silent_ofExcept (.error _)
  · exact (silent_forM_report _).bind fun _ => silent_ofExcept (.ok _)

section Jobs
variable [Json.FloatReading]

/-- The patterns and the records are read before the first batch, and a batch cannot fail. -/
theorem allOrNothing_runFilter (s : Surroundings) (settings : Settings) (patterns : Option String)
    (input : String) : AllOrNothing (runFilter s settings patterns input) := by
  unfold runFilter
  refine (silent_ofExcept _).allOrNothing_bind fun filter => ?_
  refine (silent_report _).allOrNothing_bind fun _ => ?_
  refine (silent_ofExcept _).allOrNothing_bind fun records => Sure.allOrNothing ?_
  have hdeliver : Sure (deliverBatches filter (batches settings.batchSize records)) :=
    sure_of_run fun t => ⟨_, _, run_deliverBatches filter _ t⟩
  exact hdeliver.bind fun count => sure_of_run fun t => ⟨_, _, run_report⟩

/-- The service is read and its sources are found before the first line, and a line cannot fail. -/
theorem allOrNothing_runStreams (s : Surroundings) (settings : Settings) (path : String) :
    AllOrNothing (runStreams s settings path) := by
  unfold runStreams
  refine (silent_ofExcept _).allOrNothing_bind fun service => ?_
  refine (silent_findSources settings service).allOrNothing_bind fun sources => Sure.allOrNothing ?_
  have hlines : Sure (sources.forM fun source =>
      print ((sourceLine settings source).text ++ "\n")) :=
    sure_of_run fun t => ⟨_, _, run_forM_print _ sources t⟩
  exact hlines.bind fun _ => sure_of_run fun t => ⟨_, _, run_report⟩

theorem allOrNothing_runJob (s : Surroundings) (settings : Settings) (job : Job) :
    AllOrNothing (runJob s settings job) := by
  cases job with
  | filter patterns input => exact allOrNothing_runFilter s settings patterns input
  | streams service => exact allOrNothing_runStreams s settings service

end Jobs

end ChangeSieve.CommandLine
