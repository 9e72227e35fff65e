import ChangeSieve.Proofs.Shape
import ChangeSieve.Service.Document
import ChangeSieve.Service.Encode
import ChangeSieve.Service.Source

/-!
The sources of a service. Its functions are gone through in the order of their keys, and the streams
of each as they are declared. A pattern that does not decode ends the work, whereas a table that is
not found only costs its stream. Event sources that are not consumed are not looked at.
-/
namespace ChangeSieve
open Outcome

@[simp] theorem Json.asMembers_eq_ok_iff {v : Json} {members : List (String × Json)} :
    v.asMembers = .ok members ↔ v = .object members := by
  cases v <;> simp [asMembers]

namespace EventSource

/-- The stream of an event source if it is consumed: a DynamoDB stream that is not disabled. -/
def consumed? (source : EventSource) : Option StreamEvent :=
  source.stream.filter fun stream => stream.type = .dynamodb ∧ stream.enabled ≠ some false

def Ignored (source : EventSource) : Prop :=
  ∀ stream, source.stream = some stream → stream.type ≠ .dynamodb ∨ stream.enabled = some false

theorem consumed?_eq_none {source : EventSource} (h : source.Ignored) :
    source.consumed? = none := by
  rw [consumed?, Option.filter_eq_none_iff]
  intro stream hstream
  rcases h stream hstream with htype | henabled
  · simp [htype]
  · simp [henabled]

end EventSource

def StreamEvent.PatternsDecode (event : StreamEvent) : Prop :=
  ∀ v ∈ event.filterPatterns, ∃ p, Pattern.decode v = .ok p

theorem ServiceFunction.enabledStreamEvents_eq (f : ServiceFunction) :
    f.enabledStreamEvents = f.events.filterMap EventSource.consumed? := by
  unfold enabledStreamEvents streamEvents
  rw [List.filter_filterMap, List.filter_filterMap]
  refine List.filterMap_congr fun source _ => ?_
  rw [Option.filter_filter]
  refine congrArg (Option.filter · source.stream) (funext fun stream => ?_)
  rw [Bool.eq_iff_iff]
  simp [StreamEvent.isDynamodb, StreamEvent.isEnabled]

namespace Service

variable {s t : Service} {tableNames : List (String × String)} {entry : String × StreamEvent}
  {seen : List (String × StreamEvent)} {found next : Sources}

/-! Services that were read have their functions in the order of the keys. -/

/-- A service that was read, from a value or from a text. -/
inductive IsDecoded (s : Service) : Prop where
  | value {v : Json} (hsorted : v.Sorted) (h : decode v = .ok s)
  | text [Json.FloatReading] {text : String} (h : ofText? text = some s)

/-- Functions are read under the keys of their definitions. -/
theorem keys_of_decodeEntries {members : List (String × Json)}
    {functions : List (String × ServiceFunction)} (h : members.mapM decodeEntry = .ok functions) :
    functions.map Prod.fst = members.map Prod.fst := by
  apply map_eq_map_of_mapM h
  intro member _ entry hentry
  obtain ⟨f, _, rfl⟩ := map_eq_ok_iff.1 hentry
  rfl

theorem sorted_functions_of_step {field : String × Json} (hfield : field.2.Sorted)
    (hs : Fields.Sorted s.functions) (h : step s field = .ok t) : Fields.Sorted t.functions := by
  obtain ⟨key, v⟩ := field
  unfold step at h
  dsimp only at h
  split_ifs at h
  · obtain ⟨members, hmembers, h⟩ := bind_eq_ok_iff.1 h
    obtain ⟨functions, hfunctions, h⟩ := bind_eq_ok_iff.1 h
    cases h
    rw [Json.asMembers_eq_ok_iff] at hmembers
    subst hmembers
    have hkeys : (members.map Prod.fst).Pairwise (· < ·) := List.pairwise_map.2 hfield.1
    rw [← keys_of_decodeEntries hfunctions] at hkeys
    exact List.pairwise_map.1 hkeys
  · cases h
    exact hs
  · cases h
    exact hs

theorem IsDecoded.sorted_functions (h : s.IsDecoded) : Fields.Sorted s.functions := by
  cases h with
  | @value v hsorted h =>
    refine Shape.read_preserves (P := fun s : Service => Fields.Sorted s.functions) hsorted ?_ ?_ h
    · exact .nil
    · intro s t field hfield hs hstep
      exact sorted_functions_of_step hfield hs hstep
  | @text _ text h =>
    simp only [ofText?, Option.bind_eq_bind, Option.bind_eq_some_iff, Option.pure_def] at h
    obtain ⟨_, _, _, _, read, _, h⟩ := h
    cases h
    exact (Fields.ofList_spec _).1

/-! What is consumed. -/

def consumed (s : Service) : List (String × StreamEvent) :=
  s.functions.flatMap fun entry => (entry.2.events.filterMap EventSource.consumed?).map (entry.1, ·)

theorem enabledEvents_eq_consumed (s : Service) : s.enabledEvents = s.consumed := by
  simp only [enabledEvents, consumed, ServiceFunction.enabledStreamEvents_eq]

/-- The second service has one event source more than the first, and nothing else differs. -/
def Extends (source : EventSource) (s t : Service) : Prop :=
  ∃ first key f last before after,
    f.events = before ++ after ∧ s.functions = first ++ (key, f) :: last ∧
      t = { s with
        functions := first ++ (key, { f with events := before ++ source :: after }) :: last }

theorem Extends.resources_eq {source : EventSource} (h : Extends source s t) :
    t.resources = s.resources := by
  obtain ⟨first, key, f, last, before, after, _, _, rfl⟩ := h
  rfl

theorem Extends.consumed_eq {source : EventSource} (h : Extends source s t)
    (hsource : source.Ignored) : t.consumed = s.consumed := by
  obtain ⟨first, key, f, last, before, after, hevents, hfunctions, rfl⟩ := h
  have hnone := EventSource.consumed?_eq_none hsource
  simp only [consumed, hfunctions, hevents, List.flatMap_append, List.flatMap_cons,
    List.filterMap_append, List.filterMap_cons, hnone]

/-! The loop over what is consumed. -/

/-- One stream after others: its filter has to decode, and its table decides what it adds. -/
def visit (s : Service) (tableNames : List (String × String)) (found : Sources)
    (entry : String × StreamEvent) : Except SourceError Sources := do
  let c ← candidate entry
  match s.tableOf tableNames c with
  | .ok name =>
    return { found with sources := found.sources ++ [⟨c.function, name, c.event, c.filter⟩] }
  | .error e =>
    let skipped : Log.Event := .streamSkipped c.function c.event.arn.display e.message
    return { found with events := found.events ++ [skipped] }

theorem visit_eq (found : Sources) (entry : String × StreamEvent) :
    s.visit tableNames found entry = (candidate entry).map fun c =>
      ⟨found.sources ++ (s.source? tableNames c).toList,
        found.events ++ (s.skipEvent? tableNames c).toList⟩ := by
  unfold visit source? skipEvent?
  cases candidate entry with
  | error e => rfl
  | ok c =>
    rw [ok_bind, Except.map]
    cases s.tableOf tableNames c <;> simp [Except.toOption, pure, Except.pure]

theorem foldlM_visit (entries : List (String × StreamEvent)) (found : Sources) :
    entries.foldlM (s.visit tableNames) found =
      (entries.mapM candidate).map fun candidates =>
        ⟨found.sources ++ candidates.filterMap (s.source? tableNames),
          found.events ++ candidates.filterMap (s.skipEvent? tableNames)⟩ := by
  have hcons {β : Type} (f : Candidate → Option β) (c : Candidate) (rest : List Candidate) :
      (c :: rest).filterMap f = (f c).toList ++ rest.filterMap f := by
    cases hc : f c <;> simp [hc]
  -- A fault in what follows is the fault of the whole, whatever was found before it.
  induction entries generalizing found with
  | nil => simp [pure, Except.pure, Except.map]
  | cons entry rest ih =>
    rw [List.foldlM_cons, List.mapM_cons, visit_eq]
    cases candidate entry with
    | error e => rfl
    | ok c =>
      rw [Except.map, ok_bind, ok_bind, ih]
      cases rest.mapM candidate with
      | error e => rfl
      | ok candidates => simp [Except.map, bind, Except.bind, pure, Except.pure, hcons]

theorem streamSources_eq_foldlM (s : Service) (tableNames : List (String × String)) :
    s.streamSources tableNames = s.consumed.foldlM (s.visit tableNames) ⟨[], []⟩ := by
  rw [foldlM_visit, ← enabledEvents_eq_consumed, streamSources]
  simp only [List.nil_append]
  cases s.enabledEvents.mapM candidate <;> rfl

theorem flatMap_streamFunctions (s : Service) :
    s.streamFunctions.flatMap (fun entry => entry.2.enabledStreamEvents.map (entry.1, ·)) =
      s.consumed := by
  rw [← enabledEvents_eq_consumed, enabledEvents, streamFunctions]
  induction s.functions with
  | nil => rfl
  | cons entry rest ih =>
    rw [List.filter_cons]
    split_ifs with hentry
    · rw [List.flatMap_cons, List.flatMap_cons, ih]
    · have hnone : entry.2.streamEvents = [] := by simpa using hentry
      rw [List.flatMap_cons, ih, ServiceFunction.enabledStreamEvents, hnone]
      rfl

/-- The loop goes through the functions with streams, and in each through those that are enabled. -/
theorem streamSources_eq_loop (s : Service) (tableNames : List (String × String)) :
    s.streamSources tableNames =
      s.streamFunctions.foldlM (fun found entry =>
        (entry.2.enabledStreamEvents.map (entry.1, ·)).foldlM (s.visit tableNames) found)
        ⟨[], []⟩ := by
  rw [streamSources_eq_foldlM, ← flatMap_streamFunctions, foldlM_flatMap]

/-! What the loop gathers. -/

def resolves (s : Service) (tableNames : List (String × String)) (entry : String × StreamEvent) :
    Bool :=
  (entry.2.arn.resolve tableNames s.resources).toOption.isSome

structure IsSource (s : Service) (tableNames : List (String × String))
    (entry : String × StreamEvent) (source : Source) : Prop where
  function : source.function = entry.1
  event : source.event = entry.2
  table : entry.2.arn.resolve tableNames s.resources = .ok source.tableName
  patterns : List.Forall₂ (fun v p => Pattern.decode v = .ok p) entry.2.filterPatterns
    source.filter.patterns

/-- A warning names a stream and says why its table is not found. -/
structure IsWarning (s : Service) (tableNames : List (String × String))
    (entry : String × StreamEvent) (event : Log.Event) : Prop where
  level : event.level = .warn
  reason : ∃ e, entry.2.arn.resolve tableNames s.resources = .error e ∧
    event = .streamSkipped entry.1 entry.2.arn.display e.message

/-- Of the streams seen, all patterns decode, and each has its source or its warning, in order. -/
structure Gathered (s : Service) (tableNames : List (String × String))
    (seen : List (String × StreamEvent)) (found : Sources) : Prop where
  patterns : ∀ entry ∈ seen, entry.2.PatternsDecode
  sources : List.Forall₂ (s.IsSource tableNames) (seen.filter (s.resolves tableNames)) found.sources
  events : List.Forall₂ (s.IsWarning tableNames)
    (seen.filter fun entry => !s.resolves tableNames entry) found.events

theorem candidate_eq_ok_iff {c : Candidate} :
    candidate entry = .ok c ↔ c.function = entry.1 ∧ c.event = entry.2 ∧
      List.Forall₂ (fun v p => Pattern.decode v = .ok p) entry.2.filterPatterns
        c.filter.patterns := by
  simp only [candidate, StreamEvent.filter, DeliveryFilter.ofValues, mapError_eq_ok_iff,
    map_eq_ok_iff, mapM_eq_ok_iff]
  constructor
  · rintro ⟨_, ⟨patterns, hpatterns, rfl⟩, rfl⟩
    exact ⟨rfl, rfl, hpatterns⟩
  · rintro ⟨hfunction, hevent, hpatterns⟩
    obtain ⟨function, event, filter⟩ := c
    subst hfunction hevent
    exact ⟨filter, ⟨filter.patterns, hpatterns, rfl⟩, rfl⟩

theorem candidate_eq_error_iff {e : SourceError} :
    candidate entry = .error e ↔
      ∃ error, FirstError Pattern.decode entry.2.filterPatterns error ∧
        .pattern entry.1 error = e := by
  simp only [candidate, StreamEvent.filter, DeliveryFilter.ofValues, mapError_eq_error_iff,
    map_eq_error_iff, mapM_eq_error_iff]

theorem exists_candidate_iff :
    (∃ c, candidate entry = .ok c) ↔ entry.2.PatternsDecode := by
  rw [StreamEvent.PatternsDecode, ← exists_mapM_iff]
  simp only [candidate, StreamEvent.filter, DeliveryFilter.ofValues, mapError_eq_ok_iff,
    map_eq_ok_iff]
  constructor
  · rintro ⟨_, _, ⟨patterns, hpatterns, _⟩, _⟩
    exact ⟨patterns, hpatterns⟩
  · rintro ⟨patterns, hpatterns⟩
    exact ⟨_, _, ⟨patterns, hpatterns, rfl⟩, rfl⟩

theorem gathered_nil (s : Service) (tableNames : List (String × String)) :
    s.Gathered tableNames [] ⟨[], []⟩ :=
  ⟨by simp, .nil, .nil⟩

theorem IsSource.resolves {source : Source} (h : s.IsSource tableNames entry source) :
    s.resolves tableNames entry = true := by
  rw [Service.resolves, h.table]
  rfl

theorem IsWarning.not_resolves {event : Log.Event} (h : s.IsWarning tableNames entry event) :
    s.resolves tableNames entry = false := by
  obtain ⟨e, he, _⟩ := h.reason
  rw [Service.resolves, he]
  rfl

theorem Gathered.source {source : Source} (h : s.Gathered tableNames seen found)
    (hpatterns : entry.2.PatternsDecode)
    (hsource : s.IsSource tableNames entry source) :
    s.Gathered tableNames (seen ++ [entry]) ⟨found.sources ++ [source], found.events⟩ := by
  constructor
  · exact List.forall_mem_append.2 ⟨h.patterns, List.forall_mem_singleton.2 hpatterns⟩
  · rw [List.filter_append, List.filter_cons_of_pos hsource.resolves, List.filter_nil]
    exact List.rel_append h.sources (.cons hsource .nil)
  · rw [List.filter_append, List.filter_cons_of_neg (by simp [hsource.resolves]), List.filter_nil,
      List.append_nil]
    exact h.events

theorem Gathered.warning {event : Log.Event} (h : s.Gathered tableNames seen found)
    (hpatterns : entry.2.PatternsDecode)
    (hwarning : s.IsWarning tableNames entry event) :
    s.Gathered tableNames (seen ++ [entry]) ⟨found.sources, found.events ++ [event]⟩ := by
  constructor
  · exact List.forall_mem_append.2 ⟨h.patterns, List.forall_mem_singleton.2 hpatterns⟩
  · rw [List.filter_append, List.filter_cons_of_neg (by simp [hwarning.not_resolves]),
      List.filter_nil, List.append_nil]
    exact h.sources
  · rw [List.filter_append, List.filter_cons_of_pos (by simp [hwarning.not_resolves]),
      List.filter_nil]
    exact List.rel_append h.events (.cons hwarning .nil)

/-- One step gathers one more stream. -/
theorem Gathered.visit (h : s.Gathered tableNames seen found)
    (hvisit : s.visit tableNames found entry = .ok next) :
    s.Gathered tableNames (seen ++ [entry]) next := by
  unfold Service.visit at hvisit
  rw [bind_eq_ok_iff] at hvisit
  obtain ⟨c, hc, hvisit⟩ := hvisit
  have hpatterns := exists_candidate_iff.1 ⟨c, hc⟩
  obtain ⟨hfunction, hevent, hfilter⟩ := candidate_eq_ok_iff.1 hc
  unfold tableOf at hvisit
  rw [hevent] at hvisit
  cases htable : entry.2.arn.resolve tableNames s.resources with
  | ok name =>
    rw [htable] at hvisit
    cases hvisit
    apply h.source hpatterns
    exact ⟨hfunction, rfl, htable, hfilter⟩
  | error e =>
    rw [htable] at hvisit
    cases hvisit
    apply h.warning hpatterns
    exact ⟨rfl, e, htable, by rw [hfunction]⟩

theorem gathered_of_streamSources (h : s.streamSources tableNames = .ok found) :
    s.Gathered tableNames s.consumed found := by
  rw [streamSources_eq_foldlM] at h
  apply foldlM_preserves (gathered_nil s tableNames) _ h
  intro seen entry found next hseen hvisit
  exact hseen.visit hvisit

theorem IsSource.unique {source source' : Source} (h : s.IsSource tableNames entry source)
    (h' : s.IsSource tableNames entry source') :
    source = source' := by
  obtain ⟨_, table, _, ⟨patterns⟩⟩ := source
  obtain ⟨_, table', _, ⟨patterns'⟩⟩ := source'
  obtain ⟨rfl, rfl, htable, hpatterns⟩ := h
  obtain ⟨rfl, rfl, htable', hpatterns'⟩ := h'
  obtain rfl : table = table' := Except.ok.inj (htable.symm.trans htable')
  obtain rfl : patterns = patterns' :=
    Except.ok.inj ((mapM_eq_ok_iff.2 hpatterns).symm.trans (mapM_eq_ok_iff.2 hpatterns'))
  rfl

theorem IsWarning.unique {event event' : Log.Event} (h : s.IsWarning tableNames entry event)
    (h' : s.IsWarning tableNames entry event') :
    event = event' := by
  obtain ⟨e, he, rfl⟩ := h.reason
  obtain ⟨e', he', rfl⟩ := h'.reason
  rw [he] at he'
  cases he'
  rfl

theorem Gathered.unique {found' : Sources} (h : s.Gathered tableNames seen found)
    (h' : s.Gathered tableNames seen found') : found = found' := by
  obtain ⟨sources, events⟩ := found
  obtain ⟨sources', events'⟩ := found'
  have hsource : Relator.RightUnique (s.IsSource tableNames) := fun _ _ _ => IsSource.unique
  have hwarning : Relator.RightUnique (s.IsWarning tableNames) := fun _ _ _ => IsWarning.unique
  obtain rfl : sources = sources' := hsource.forall₂ h.sources h'.sources
  obtain rfl : events = events' := hwarning.forall₂ h.events h'.events
  rfl

theorem streamSources_eq_ok_iff :
    s.streamSources tableNames = .ok found ↔ s.Gathered tableNames s.consumed found := by
  refine ⟨gathered_of_streamSources, fun h => ?_⟩
  obtain ⟨candidates, hcandidates⟩ :=
    exists_mapM_iff.2 fun entry hentry => exists_candidate_iff.2 (h.patterns entry hentry)
  have hrun : ∃ found', s.streamSources tableNames = .ok found' := by
    rw [streamSources_eq_foldlM, foldlM_visit, hcandidates]
    exact ⟨_, rfl⟩
  obtain ⟨found', hfound'⟩ := hrun
  rw [hfound', (gathered_of_streamSources hfound').unique h]

/--
The fault of a service: of the streams that it consumes, the first one with a pattern that does not
decode, and of its patterns the first such.
-/
def FirstFault (s : Service) (key : String) (error : PatternError) : Prop :=
  ∃ before event after, s.consumed = before ++ (key, event) :: after ∧
    (∀ entry ∈ before, entry.2.PatternsDecode) ∧
    FirstError Pattern.decode event.filterPatterns error

theorem streamSources_eq_error_iff {e : SourceError} :
    s.streamSources tableNames = .error e ↔
      ∃ key error, s.FirstFault key error ∧ .pattern key error = e := by
  rw [streamSources_eq_foldlM, foldlM_visit, map_eq_error_iff, mapM_eq_error_iff]
  constructor
  · rintro ⟨before, ⟨key, event⟩, after, hsplit, hbefore, hfaulty⟩
    obtain ⟨error, herror, rfl⟩ := candidate_eq_error_iff.1 hfaulty
    refine ⟨key, error, ⟨before, event, after, hsplit, fun entry hentry => ?_, herror⟩, rfl⟩
    exact exists_candidate_iff.1 (hbefore entry hentry)
  · rintro ⟨key, error, ⟨before, event, after, hsplit, hbefore, herror⟩, rfl⟩
    refine ⟨before, (key, event), after, hsplit, fun entry hentry => ?_, ?_⟩
    · exact exists_candidate_iff.2 (hbefore entry hentry)
    · exact candidate_eq_error_iff.2 ⟨error, herror, rfl⟩

theorem exists_streamSources_error_iff :
    (∃ e, s.streamSources tableNames = .error e) ↔
      ∃ entry ∈ s.consumed, ∃ v ∈ entry.2.filterPatterns, ∃ e, Pattern.decode v = .error e := by
  simp only [streamSources_eq_foldlM, foldlM_visit, map_eq_error_iff, mapM_eq_error_iff,
    exists_firstError_iff, candidate_eq_error_iff]
  refine exists_congr fun entry => and_congr_right fun _ => ?_
  rw [← exists_firstError_iff]
  constructor
  · rintro ⟨_, error, herror, _⟩
    exact ⟨error, herror⟩
  · rintro ⟨error, herror⟩
    exact ⟨_, error, herror, rfl⟩

/-- What is reported before a fault is what the loop has found by then. -/
theorem eventsBeforeFault_eq {before after : List (String × StreamEvent)} {e : SourceError}
    (hsplit : s.consumed = before ++ entry :: after) (hfault : candidate entry = .error e)
    (hbefore : before.foldlM (s.visit tableNames) ⟨[], []⟩ = .ok found) :
    s.eventsBeforeFault tableNames = found.events := by
  rw [foldlM_visit, map_eq_ok_iff] at hbefore
  obtain ⟨candidates, hcandidates, rfl⟩ := hbefore
  have hread : candidates.map some = before.map fun entry => (candidate entry).toOption := by
    apply map_eq_map_of_mapM hcandidates
    intro entry _ c hc
    rw [hc]
    rfl
  have hsome : ∀ c? ∈ candidates.map some, c?.isSome = true := by simp
  unfold eventsBeforeFault
  dsimp only
  rw [enabledEvents_eq_consumed, hsplit, List.map_append, ← hread, List.map_cons, hfault,
    List.takeWhile_append_of_pos hsome]
  simp [Except.toOption, List.filterMap_map]

/-- Only the resources and what is consumed matter. -/
theorem streamSources_congr (hresources : t.resources = s.resources)
    (hconsumed : t.consumed = s.consumed) :
    t.streamSources tableNames = s.streamSources tableNames := by
  have hvisit : t.visit tableNames = s.visit tableNames := by
    funext found entry
    simp only [visit, tableOf, hresources]
  rw [streamSources_eq_foldlM, streamSources_eq_foldlM, hconsumed, hvisit]

/--
The sources of a service are its consumed streams with a table. The functions are in the order of
their keys. If a pattern of a consumed stream does not decode, the first one is the error, with the
key of its function, whatever tables there are. Else every consumed stream gives its source or its
warning, in order. A further event source that is not consumed changes nothing, whatever it holds.
-/
theorem streamSources_finds_resolvable_streams (hs : s.IsDecoded)
    (tableNames : List (String × String)) :
    Fields.Sorted s.functions ∧
    ((∃ e, s.streamSources tableNames = .error e) ↔
      ∃ entry ∈ s.consumed, ∃ v ∈ entry.2.filterPatterns, ∃ e, Pattern.decode v = .error e) ∧
    (∀ e, s.streamSources tableNames = .error e ↔
      ∃ key error, s.FirstFault key error ∧ .pattern key error = e) ∧
    (∀ found, s.streamSources tableNames = .ok found ↔ s.Gathered tableNames s.consumed found) ∧
    ∀ source t, source.Ignored → Extends source s t →
      t.streamSources tableNames = s.streamSources tableNames := by
  refine ⟨hs.sorted_functions, exists_streamSources_error_iff, fun e => streamSources_eq_error_iff,
    fun found => streamSources_eq_ok_iff, fun source t hsource ht => ?_⟩
  exact streamSources_congr ht.resources_eq (ht.consumed_eq hsource)

/-- A disabled stream is not looked at, and one without a table is passed over with a warning. -/
theorem streamSources_passes_over_streams :
    let pattern : Json := .object [("eventName", .array [.string "INSERT"])]
    let event (enabled : Bool) (arn : String) (pattern : Json) : EventSource :=
      ⟨some ⟨.dynamodb, .ofText arn, some enabled, none, none, [pattern]⟩, []⟩
    let s : Service :=
      { functions :=
          [("audit", ⟨none, none, [event false "Audit" .null, event true "Audit" pattern]⟩),
            ("users", ⟨none, none, [event true "arn:aws:dynamodb:eu:0:table/Users" pattern]⟩)]
        resources := .null }
    s.IsDecoded ∧ ∃ found, s.Gathered [] s.consumed found ∧
      found.sources.map (fun source => (source.function, source.tableName)) = [("users", "Users")] ∧
      found.events.map Log.Event.level = [.warn] := by
  intro pattern event s
  have hdecoded : s.IsDecoded := by
    have hservice : ["functions", "resources"].Pairwise (· < ·) := by decide
    have hkeys : ["audit", "users"].Pairwise (· < ·) := by decide
    have hstream : ["arn", "enabled", "filterPatterns", "type"].Pairwise (· < ·) := by decide
    have hsorted : s.toJson.Sorted := by
      simpa [s, event, pattern, toJson, ServiceFunction.toJson, EventSource.toJson,
        StreamEvent.toJson, StreamArn.toJson, StreamArn.ofText, StreamType.toJson, memberIf,
        Fields.insert, Json.Sorted, Json.SortedMembers, Json.SortedItems, Fields.Sorted]
        using And.intro hservice (And.intro hkeys hstream)
    exact .value hsorted rfl
  obtain ⟨_, _, _, hok, _⟩ := streamSources_finds_resolvable_streams hdecoded []
  obtain ⟨found, hfound⟩ : ∃ found, s.streamSources [] = .ok found := ⟨_, rfl⟩
  refine ⟨hdecoded, found, (hok found).1 hfound, ?_, ?_⟩
  · cases hfound
    rfl
  · cases hfound
    rfl

end Service

end ChangeSieve
