import ChangeSieve.Proofs.Framing
import ChangeSieve.Proofs.MapOrder
import ChangeSieve.Proofs.Work

/-!
Runs are all or nothing. A job reads everything that it needs before it prints, in a fixed order,
and the first fault is the one that is reported, with its causes. So a run prints the lines of a job
that was done, or it fails and prints nothing.
-/
namespace ChangeSieve

/-! Lines of JSON. -/

namespace Json

/-- Values that are written one to a line are the lines of what is written. -/
theorem lines_written (values : List Json) :
    Text.lines (String.join (values.map fun v => v.text ++ "\n")).toList =
      values.map fun v => v.text.toList := by
  induction values with
  | nil => rfl
  | cons v rest ih =>
    have hfeed : '\n' ∉ v.text.toList := not_mem_text (by decide) v
    have hreturn : '\r' ∉ v.text.toList := not_mem_text (by decide) v
    have hcons : (String.join ((v :: rest).map fun v => v.text ++ "\n")).toList =
        v.text.toList ++ '\n' :: (String.join (rest.map fun v => v.text ++ "\n")).toList := by
      simp
    rw [hcons, Text.lines_append hfeed, Text.dropReturn_of_not_mem hreturn, ih, List.map_cons]

@[simp] theorem readable_ofNat (n depth : Nat) : (ofNat n).Readable depth := by
  unfold ofNat
  split
  · exact readable_of_scalar (by simp [kind]) (by simp [kind]) depth
  · split <;> exact readable_of_scalar (by simp [kind]) (by simp [kind]) depth

end Json

namespace CommandLine
open ChangeSieve.Outcome Work

variable {s : Surroundings} {args : List String} {invocation : Invocation} {wording : Wording}
  {lines : Transcript → List String} {failure : Failure} {values : List Json}
  {result : EStateM.Result Failure Transcript Unit} {t : Transcript}

/-! How a run can end. -/

/-- A run that ends well and prints values, each on a line of its own. -/
structure Outcome.Prints (outcome : Outcome) (values : List Json) : Prop where
  exit : outcome.exit = 0
  stdout : outcome.stdout = String.join (values.map fun v => v.text ++ "\n")
  lines : Text.lines outcome.stdout.toList = values.map fun v => v.text.toList

/-- A run that prints nothing and ends with the report of a fault and its causes. -/
structure Outcome.Fails (outcome : Outcome) (wording : Wording) (failure : Failure) : Prop where
  exit : outcome.exit ≠ 0
  stdout : outcome.stdout = ""
  report : ∃ before, outcome.stderr = before ++ failure.report wording ++ "\n"

theorem Failure.exit_ne_zero (failure : Failure) : failure.exit ≠ 0 := by
  cases failure <;> simp [Failure.exit]

namespace Outcome

theorem exit_ofResult_iff :
    (ofResult wording lines result).exit = 0 ↔ ∃ t, result = .ok () t := by
  cases result with
  | ok _ t => simp [ofResult]
  | error failure t => simp [ofResult, failure.exit_ne_zero]

theorem prints_ofResult (h : result = .ok () t)
    (hout : t.stdout = String.join (values.map fun v => v.text ++ "\n")) :
    (ofResult wording lines result).Prints values := by
  subst h
  refine ⟨rfl, hout, ?_⟩
  rw [ofResult, hout, Json.lines_written]

theorem fails_ofResult (h : result = .error failure t) (hout : t.stdout = "") :
    (ofResult wording lines result).Fails wording failure := by
  subst h
  refine ⟨failure.exit_ne_zero, hout, String.join ((lines t).map (· ++ "\n")), ?_⟩
  simp [ofResult, String.append_assoc]

end Outcome

section Runs
variable [Json.FloatReading]

/-- A run ends at its arguments, or with a result that has printed nothing if it is a fault. -/
theorem run_cases (s : Surroundings) (args : List String) :
    (∃ stop, run s args = .ofStop stop) ∨
      ∃ lines result, run s args = .ofResult s.wording lines result ∧
        ∀ failure t, result = .error failure t → t.stdout = "" := by
  unfold run
  cases parse s.env args with
  | error stop => exact .inl ⟨stop, rfl⟩
  | ok invocation =>
    right
    unfold Outcome.ofInvocation
    dsimp only
    split
    · exact ⟨_, _, rfl, by rintro _ _ ⟨⟩; rfl⟩
    · exact ⟨_, _, rfl, fun failure t h => allOrNothing_runJob s _ _ _ failure t h⟩

/-- Whatever is wrong, a run that does not end well prints nothing. -/
theorem stdout_of_exit_ne_zero (h : (run s args).exit ≠ 0) : (run s args).stdout = "" := by
  rcases run_cases s args with ⟨stop, hrun⟩ | ⟨lines, result, hrun, hfault⟩
  · rw [hrun] at h ⊢
    cases stop with
    | usage => rfl
    | help => exact absurd rfl h
    | version => exact absurd rfl h
  · rw [hrun] at h ⊢
    cases result with
    | ok _ t => exact absurd rfl h
    | error failure t => exact hfault failure t rfl

/-- The arguments are understood, and the log filter is valid. -/
structure Ready (s : Surroundings) (args : List String) (invocation : Invocation) : Prop where
  parsed : parse s.env args = .ok invocation
  logged : ∃ directives, (logSetup s (settingsFor s invocation)).directives = .ok directives

omit [Json.FloatReading] in
/-- The default log level is a valid log filter. -/
theorem logged_without_variables (h : s.env = fun _ => none) (invocation : Invocation) :
    ∃ directives, (logSetup s (settingsFor s invocation)).directives = .ok directives := by
  have hlevel : (settingsFor s invocation).logLevel = Settings.defaults.logLevel := by
    unfold settingsFor
    rw [h]
    rfl
  have hfilter : LogFilter.ofText Settings.defaults.logLevel = .ok [⟨none, none, [], 3⟩] := rfl
  refine ⟨[⟨none, none, [], 3⟩], ?_⟩
  rw [logSetup, h]
  dsimp only
  rw [hlevel, hfilter]

/-- Such a run ends as its job does, after lines about what happened. -/
theorem Ready.run_eq (h : Ready s args invocation) :
    ∃ lines, run s args = .ofResult s.wording lines
      ((runJob s (settingsFor s invocation) invocation.job).run .blank) := by
  obtain ⟨directives, hdirectives⟩ := h.logged
  unfold run
  rw [h.parsed]
  unfold Outcome.ofInvocation
  dsimp only
  rw [hdirectives]
  exact ⟨_, rfl⟩

/-! The filter job. -/

/-- The filter of a pattern text; without one everything passes. -/
def filterOf : Option String → Except Pattern.TextError DeliveryFilter
  | none => .ok .passAll
  | some text => DeliveryFilter.ofText text

/-- What the files of a filter job hold: the patterns, if a file is named for them, and the input. -/
structure FilterTexts (s : Surroundings) (patterns : Option String) (input : String)
    (patternText : Option String) (inputText : String) : Prop where
  patterns : patterns.map s.file = patternText.map .text
  input : (if input = standardInput then s.stdin else s.file input) = .text inputText

theorem loadFilter_eq {patterns patternText : Option String}
    (h : patterns.map s.file = patternText.map .text) :
    loadFilter s patterns =
      (filterOf patternText).mapError (.invalidPatterns (patterns.getD "")) := by
  cases patterns with
  | none =>
    cases patternText with
    | none => rfl
    | some text => cases h
  | some path =>
    cases patternText with
    | none => cases h
    | some text =>
      have hfile : s.file path = .text text := Option.some.inj h
      rw [loadFilter, readFile, hfile]
      rfl

theorem readRecords_eq {input inputText : String}
    (h : (if input = standardInput then s.stdin else s.file input) = .text inputText) :
    readRecords s input =
      ((Record.allOfText inputText).map s.order.arrange).mapError .invalidRecords := by
  unfold readRecords readInput
  rw [h]
  rfl

section Filter
variable {patterns patternText : Option String} {input inputText : String} {filter : DeliveryFilter}

/-- The patterns come first, so nothing is asked of the records. -/
theorem runFilter_of_badPatterns (h : FilterTexts s patterns input patternText inputText)
    {e : Pattern.TextError} (he : filterOf patternText = .error e) (settings : Settings) :
    (runFilter s settings patterns input).run t =
      .error (.invalidPatterns (patterns.getD "") e) t := by
  unfold runFilter
  rw [loadFilter_eq h.patterns, he, EStateM.run_bind]
  rfl

theorem runFilter_of_badRecords (h : FilterTexts s patterns input patternText inputText)
    (hfilter : filterOf patternText = .ok filter) {e : Record.FramingError}
    (he : Record.allOfText inputText = .error e) (settings : Settings) :
    ∃ t', (runFilter s settings patterns input).run t = .error (.invalidRecords e) t' := by
  unfold runFilter
  rw [loadFilter_eq h.patterns, readRecords_eq h.input, hfilter, he]
  simp only [EStateM.run_bind, Except.map, Except.mapError, run_ofExcept_ok, run_ofExcept_error,
    run_report]
  exact ⟨_, rfl⟩

/-- The records that are printed do not depend on the size of the batches. -/
theorem runFilter_of_read (h : FilterTexts s patterns input patternText inputText)
    (hfilter : filterOf patternText = .ok filter) {rs : List Record}
    (hrs : Record.allOfText inputText = .ok rs) (settings : Settings) :
    ∃ t', (runFilter s settings patterns input).run t = .ok () t' ∧
      t'.stdout = t.stdout ++ String.join ((filter.keep (s.order.arrange rs)).map Record.line) := by
  have hdeliver := run_deliverBatches_batches filter settings.batchSize (s.order.arrange rs)
  rw [DeliveryFilter.deliver_output] at hdeliver
  unfold runFilter
  rw [loadFilter_eq h.patterns, readRecords_eq h.input, hfilter, hrs]
  simp only [EStateM.run_bind, Except.map, Except.mapError, run_ofExcept_ok, run_report, hdeliver]
  exact ⟨_, rfl, rfl⟩

end Filter

/--
What a filter job owes: all allowed records or nothing, and the fault that comes first. Each record
is written with the entries of its maps in the order in which they lie in memory.
-/
structure FilterContract (s : Surroundings) (outcome : Outcome)
    (patterns patternText : Option String) (inputText : String) : Prop where
  exit : outcome.exit = 0 ↔
    (∃ filter, filterOf patternText = .ok filter) ∧ ∃ rs, Record.allOfText inputText = .ok rs
  prints : ∀ filter rs, filterOf patternText = .ok filter → Record.allOfText inputText = .ok rs →
    outcome.Prints ((filter.keep (s.order.arrange rs)).map Record.toJson) ∧
      List.Forall₂ (Record.Arranged s.order) (filter.keep rs) (filter.keep (s.order.arrange rs))
  badPatterns : ∀ path text e, patterns = some path → patternText = some text →
    DeliveryFilter.ofText text = .error e → outcome.Fails s.wording (.invalidPatterns path e)
  badRecords : ∀ filter e, filterOf patternText = .ok filter →
    Record.allOfText inputText = .error e → outcome.Fails s.wording (.invalidRecords e)

theorem filterContract_runFilter {patterns patternText : Option String} {input inputText : String}
    (h : FilterTexts s patterns input patternText inputText) (settings : Settings)
    (lines : Transcript → List String) :
    FilterContract s (.ofResult s.wording lines ((runFilter s settings patterns input).run .blank))
      patterns patternText inputText := by
  constructor
  · rw [Outcome.exit_ofResult_iff]
    constructor
    · rintro ⟨t, hrun⟩
      cases hfilter : filterOf patternText with
      | error e => cases (runFilter_of_badPatterns h hfilter settings).symm.trans hrun
      | ok filter =>
        cases hrs : Record.allOfText inputText with
        | error e =>
          obtain ⟨_, hfail⟩ := runFilter_of_badRecords h hfilter hrs settings
          cases hfail.symm.trans hrun
        | ok rs => exact ⟨⟨filter, rfl⟩, rs, rfl⟩
    · rintro ⟨⟨filter, hfilter⟩, rs, hrs⟩
      obtain ⟨t, hrun, _⟩ := runFilter_of_read h hfilter hrs settings
      exact ⟨t, hrun⟩
  · intro filter rs hfilter hrs
    obtain ⟨t, hrun, hout⟩ := runFilter_of_read h hfilter hrs settings
    refine ⟨Outcome.prints_ofResult hrun ?_, filter.keep_arranged (s.order.forall₂_arrange rs)⟩
    rw [hout, List.map_map]
    exact String.empty_append
  · rintro path text e rfl rfl he
    exact Outcome.fails_ofResult (runFilter_of_badPatterns h he settings) rfl
  · intro filter e hfilter he
    obtain ⟨t, hfail⟩ := runFilter_of_badRecords h hfilter he settings
    have hout := allOrNothing_runFilter s settings patterns input _ _ _ hfail
    exact Outcome.fails_ofResult hfail hout

/-! The streams job. -/

/-- The line about a source is read back as what it is made of. -/
theorem read_sourceLine (floats : Json.FloatReading.ReadsBack) (settings : Settings)
    (source : Source) :
    Json.read (sourceLine settings source).text = .ok (sourceLine settings source) := by
  apply Json.read_text floats
  unfold sourceLine
  apply Json.readable_object_iff.2
  constructor
  · have hkeys : ["batchSize", "filterPatterns", "function", "region", "startingPosition",
        "tableName"].Pairwise (· < ·) := by decide
    exact List.pairwise_map.1 hkeys
  · simp only [List.forall_mem_cons, Json.readable_ofNat, Json.readable_string,
      List.not_mem_nil, false_implies, implies_true, and_self]

section Streams
variable {path text : String} {service : Service}

theorem loadService_eq (h : s.file path = .text text) : loadService s path =
    match Service.ofText? text with
    | some service => .ok service
    | none => .error (.invalidService path text) := by
  rw [loadService, readFile, h, ok_bind]
  rfl

theorem runStreams_of_badService (h : s.file path = .text text)
    (hservice : Service.ofText? text = none) (settings : Settings) :
    (runStreams s settings path).run t = .error (.invalidService path text) t := by
  unfold runStreams
  rw [loadService_eq h, hservice, EStateM.run_bind]
  rfl

theorem runStreams_of_badPattern (h : s.file path = .text text)
    (hservice : Service.ofText? text = some service) {settings : Settings} {e : SourceError}
    (he : service.streamSources settings.tableNames = .error e) :
    ∃ t', (runStreams s settings path).run t = .error (.source e) t' := by
  unfold runStreams
  rw [loadService_eq h, hservice]
  simp only [EStateM.run_bind, run_ofExcept_ok, findSources, he, run_forM_report]
  exact ⟨_, rfl⟩

theorem runStreams_of_read (h : s.file path = .text text)
    (hservice : Service.ofText? text = some service) {settings : Settings} {found : Service.Sources}
    (hfound : service.streamSources settings.tableNames = .ok found) :
    ∃ t', (runStreams s settings path).run t = .ok () t' ∧
      t'.stdout = t.stdout ++
        String.join (found.sources.map fun source => (sourceLine settings source).text ++ "\n") := by
  unfold runStreams
  rw [loadService_eq h, hservice]
  simp only [EStateM.run_bind, run_ofExcept_ok, findSources, hfound, run_forM_report,
    EStateM.run_pure, run_forM_print fun source => (sourceLine settings source).text ++ "\n",
    run_report]
  exact ⟨_, rfl, rfl⟩

end Streams

/-- What a streams job owes: a line for each source or nothing, and the fault that comes first. -/
structure StreamsContract (s : Surroundings) (outcome : Outcome) (settings : Settings)
    (path text : String) : Prop where
  exit : outcome.exit = 0 ↔ ∃ service found, Service.ofText? text = some service ∧
    service.streamSources settings.tableNames = .ok found
  prints : ∀ service found, Service.ofText? text = some service →
    service.streamSources settings.tableNames = .ok found →
    outcome.Prints (found.sources.map (sourceLine settings))
  reads : Json.FloatReading.ReadsBack → ∀ source,
    Json.read (sourceLine settings source).text = .ok (sourceLine settings source)
  badService : Service.ofText? text = none → outcome.Fails s.wording (.invalidService path text)
  badPattern : ∀ service e, Service.ofText? text = some service →
    service.streamSources settings.tableNames = .error e → outcome.Fails s.wording (.source e)

theorem streamsContract_runStreams {path text : String} (h : s.file path = .text text)
    (settings : Settings) (lines : Transcript → List String) :
    StreamsContract s (.ofResult s.wording lines ((runStreams s settings path).run .blank)) settings
      path text := by
  constructor
  · rw [Outcome.exit_ofResult_iff]
    constructor
    · rintro ⟨t, hrun⟩
      cases hservice : Service.ofText? text with
      | none => cases (runStreams_of_badService h hservice settings).symm.trans hrun
      | some service =>
        cases hfound : service.streamSources settings.tableNames with
        | error e =>
          obtain ⟨_, hfail⟩ := runStreams_of_badPattern h hservice hfound
          cases hfail.symm.trans hrun
        | ok found => exact ⟨service, found, rfl, hfound⟩
    · rintro ⟨service, found, hservice, hfound⟩
      obtain ⟨t, hrun, _⟩ := runStreams_of_read h hservice hfound
      exact ⟨t, hrun⟩
  · intro service found hservice hfound
    obtain ⟨t, hrun, hout⟩ := runStreams_of_read h hservice hfound
    refine Outcome.prints_ofResult hrun ?_
    rw [hout, List.map_map]
    exact String.empty_append
  · intro floats source
    exact read_sourceLine floats settings source
  · intro hservice
    exact Outcome.fails_ofResult (runStreams_of_badService h hservice settings) rfl
  · intro service e hservice he
    obtain ⟨t, hfail⟩ := runStreams_of_badPattern h hservice he
    have hout := allOrNothing_runStreams s settings path _ _ _ hfail
    exact Outcome.fails_ofResult hfail hout

/--
Runs are all or nothing. With arguments that are understood, a valid log filter and files that are
texts, a filter job ends well exactly when its patterns and all of its records are read, and then it
prints the allowed records in order, whatever the size of the batches. A streams job ends well
exactly when its service is read and has sources, and then it prints a line of JSON for each. Else
nothing is printed, and the first fault is reported with its causes: that of the patterns before any
of the records.
-/
theorem run_is_all_or_nothing (h : Ready s args invocation) :
    ((run s args).exit ≠ 0 → (run s args).stdout = "") ∧
    (∀ patterns input patternText inputText, invocation.job = .filter patterns input →
      FilterTexts s patterns input patternText inputText →
      FilterContract s (run s args) patterns patternText inputText) ∧
    ∀ path text, invocation.job = .streams path → s.file path = .text text →
      StreamsContract s (run s args) (settingsFor s invocation) path text := by
  obtain ⟨lines, hrun⟩ := h.run_eq
  refine ⟨stdout_of_exit_ne_zero, ?_, ?_⟩
  · intro patterns input patternText inputText hjob htexts
    rw [hrun, hjob, runJob]
    exact filterContract_runFilter htexts _ lines
  · intro path text hjob hfile
    rw [hrun, hjob, runJob]
    exact streamsContract_runStreams hfile _ lines

end Runs

section Nearest
attribute [local instance] Json.FloatReading.nearest

/-- A record that is read is not printed when the one after it is not. -/
theorem run_stops_before_output :
    let wording : Wording := ⟨fun _ => "not JSON", fun _ => "no service", fun _ => []⟩
    let s : Surroundings := ⟨fun _ => none, fun _ => .missing "no such file", .text "\x7b\x7d\n[",
      .sorted, wording⟩
    let invocation : Invocation := ⟨.filter none standardInput, none, false⟩
    Ready s ["filter"] invocation ∧
      ∃ e, Record.allOfText "\x7b\x7d\n[" = .error e ∧
        (run s ["filter"]).Fails wording (.invalidRecords e) := by
  intro wording s invocation
  have hready : Ready s ["filter"] invocation := ⟨rfl, logged_without_variables rfl _⟩
  obtain ⟨_, hfilter, _⟩ := run_is_all_or_nothing hready
  have hcontract := hfilter none standardInput none "\x7b\x7d\n[" rfl ⟨rfl, rfl⟩
  obtain ⟨e, he⟩ : ∃ e, Record.allOfText "\x7b\x7d\n[" = .error e := ⟨_, rfl⟩
  exact ⟨hready, e, he, hcontract.badRecords .passAll e rfl he⟩

end Nearest

end CommandLine

end ChangeSieve
