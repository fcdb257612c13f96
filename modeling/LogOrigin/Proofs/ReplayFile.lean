import LogOrigin.Instant.Epoch
import LogOrigin.Proofs.AdapterSet
import LogOrigin.Proofs.EventLines

/-!
# Replaying a file into a file

The three adapters of a replay start together, stay started while the events go through them, and
stop together (`AdapterSet.Ready`). So every event that is not filtered out becomes a line of the
output, and nothing else does.
-/

namespace LogOrigin

open Json.Byte (lineFeed)

namespace AdapterSet

variable {s s' : AdapterSet JsonLinesSink} {f : Framework}

/-! ## Adapters that are all started -/

/-- All adapters are started, over a file that takes everything. -/
structure Ready (s : AdapterSet JsonLinesSink) : Prop where
  coupled : s.Coupled
  sound : s.sink.Sound
  started : ∀ f, s.state f = .started

theorem start_of_started (h : s.state f = .started) : s.start f = s :=
  start_of_not_uninitialized (by rw [h]; decide)

/-- An adapter that is started writes the record of its event, if there is one. -/
theorem append_of_started (now : Instant) {e : CapturedEvent}
    (h : s.state e.framework = .started) :
    s.append now e = match s.normalize now e with
      | some r => { s with sink := s.sink.write r }
      | none => s := by
  cases hoff : e.isOff with
  | true =>
    rw [normalize_of_isOff hoff]
    simp only [append, hoff, if_true]
  | false =>
    have happend := append_eq s now hoff
    rw [start_of_started h, if_pos h] at happend
    exact happend

/-- An event adds the line of its record and changes nothing but the sink. -/
theorem Ready.append (hs : s.Ready) (now : Instant) (e : CapturedEvent) :
    (s.append now e).Ready ∧
      (s.append now e).policies = s.policies ∧ (s.append now e).stack = s.stack ∧
      (s.append now e).sink.given = s.sink.given ++ lines (s.normalize now e).toList ∧
      (s.append now e).sink.written = s.sink.written + (s.normalize now e).toList.length := by
  have hst := hs.started e.framework
  rw [append_of_started now hst]
  cases s.normalize now e with
  | none => exact ⟨hs, rfl, rfl, (List.append_nil _).symm, rfl⟩
  | some r =>
    have hmove : Move e.framework s { s with sink := s.sink.write r } (some r) :=
      .wrote r hst rfl rfl
    obtain ⟨hsound, hgiven, hwritten⟩ := hs.coupled.given_move hs.sound hmove
    exact ⟨⟨hs.coupled.move hmove, hsound, hs.started⟩, rfl, rfl, hgiven, hwritten⟩

/-- Events add the lines of their records, in order. -/
theorem Ready.append_all (hs : s.Ready) (clock : Nat → Instant)
    (events : List (Nat × CapturedEvent)) :
    let after := events.foldl (fun s (n, e) => s.append (clock n) e) s
    let records := events.filterMap fun (n, e) => s.normalize (clock n) e
    after.Ready ∧ after.sink.given = s.sink.given ++ lines records ∧
      after.sink.written = s.sink.written + records.length := by
  induction events generalizing s with
  | nil => exact ⟨hs, (List.append_nil _).symm, rfl⟩
  | cons event events ih =>
    obtain ⟨n, e⟩ := event
    obtain ⟨hready, hpolicies, hstack, hgiven, hwritten⟩ := hs.append (clock n) e
    have hnormalize : (s.append (clock n) e).normalize = s.normalize := by
      funext now e'
      rw [normalize, normalize, hpolicies, hstack]
    obtain ⟨hafter, hgiven', hwritten'⟩ := ih hready
    rw [hnormalize] at hgiven' hwritten'
    refine ⟨hafter, ?_, ?_⟩
    · rw [List.foldl_cons, hgiven', hgiven]
      cases hr : s.normalize (clock n) e <;> simp [lines, hr]
    · rw [List.foldl_cons, hwritten', hwritten]
      cases hr : s.normalize (clock n) e <;> simp [hr]
      omega

/-! ## Starting and stopping all of them -/

/-- An adapter that has not been started registers, if the file is open or opens. -/
theorem start_of_opens (hu : s.state f = .uninitialized)
    (hopens : s.sink.isOpen = true ∨ s.sink.file.refusal = none) :
    ∃ sink, s.sink.Registers sink ∧
      s.start f = { s with
        bindings :=
          s.bindings.set f { s.bindings.get f with registration := .granted ⟨s.sink.nextHandle⟩ }
        sink := sink } := by
  obtain ⟨hresult, hregisters⟩ | ⟨cause, hclosed, hrefusal, -⟩ :=
    JsonLinesSink.start_cases (s.bindings.get f).logSystem s.sink
  · exact ⟨_, hregisters, by rw [start_of_uninitialized hu, hresult]; rfl⟩
  · rcases hopens with hopen | hnone
    · rw [hopen] at hclosed
      cases hclosed
    · rw [hnone] at hrefusal
      cases hrefusal

/-- What starting adapters keeps. -/
structure Keeps (s s' : AdapterSet JsonLinesSink) : Prop where
  policies : s'.policies = s.policies
  stack : s'.stack = s.stack
  given : s'.sink.given = s.sink.given
  written : s'.sink.written = s.sink.written

theorem Keeps.trans {mid : AdapterSet JsonLinesSink} (h : s.Keeps mid) (h' : mid.Keeps s') :
    s.Keeps s' where
  policies := h'.policies.trans h.policies
  stack := h'.stack.trans h.stack
  given := h'.given.trans h.given
  written := h'.written.trans h.written

theorem keeps_start (s : AdapterSet JsonLinesSink) (f : Framework) : s.Keeps (s.start f) := by
  by_cases hu : s.state f = .uninitialized
  · rw [start_of_uninitialized hu]
    exact ⟨rfl, rfl, (s.sink.bytes_start _).1, s.sink.written_start _⟩
  · rw [start_of_not_uninitialized hu]
    exact ⟨rfl, rfl, rfl, rfl⟩

/-- Adapters of which none has failed or is stopped all start, if the file is open or opens. -/
theorem Coupled.start_all (hs : s.Coupled)
    (hopens : s.sink.isOpen = true ∨ s.sink.file.refusal = none)
    (hstates : ∀ f, s.state f = .uninitialized ∨ s.state f = .started) (fs : List Framework) :
    (fs.foldl start s).Coupled ∧ s.Keeps (fs.foldl start s) ∧
      (s.sink.Sound → (fs.foldl start s).sink.Sound) ∧
      ∀ f, f ∈ fs ∨ s.state f = .started → (fs.foldl start s).state f = .started := by
  induction fs generalizing s with
  | nil => exact ⟨hs, ⟨rfl, rfl, rfl, rfl⟩, id, fun f hf => hf.resolve_left (List.not_mem_nil)⟩
  | cons f fs ih =>
    rw [List.foldl_cons]
    rcases hstates f with hu | hst
    · obtain ⟨sink, hregisters, heq⟩ := start_of_opens hu hopens
      have hmove := move_start s f
      have hfirst := s.keeps_start f
      have hself : (s.start f).state f = .started := by
        rw [heq, state_set_self rfl, Binding.state_eq_started_iff]
        exact ⟨(Binding.state_eq_uninitialized_iff.mp hu).1, _, rfl⟩
      have hother : ∀ g, g ≠ f → (s.start f).state g = s.state g := by
        intro g hg
        rw [heq, state_set_of_ne rfl hg]
      have hstates' : ∀ g,
          (s.start f).state g = .uninitialized ∨ (s.start f).state g = .started := by
        intro g
        by_cases hg : g = f
        · exact .inr (hg ▸ hself)
        · rw [hother g hg]
          exact hstates g
      have hopen : (s.start f).sink.isOpen = true := by
        rw [heq]
        exact hregisters.isOpen
      obtain ⟨hcoupled, hrest, hsound, hstarted⟩ := ih (hs.move hmove) (.inl hopen) hstates'
      refine ⟨hcoupled, hfirst.trans hrest, fun h => hsound (hs.given_move h hmove).1,
        fun g hg => hstarted g ?_⟩
      by_cases hgf : g = f
      · exact .inr (hgf ▸ hself)
      · rw [hother g hgf]
        exact hg.imp_left (List.mem_of_ne_of_mem hgf)
    · rw [start_of_started hst]
      obtain ⟨hcoupled, hkeeps, hsound, hstarted⟩ := ih hs hopens hstates
      refine ⟨hcoupled, hkeeps, hsound, fun g hg => hstarted g ?_⟩
      by_cases hgf : g = f
      · exact .inr (hgf ▸ hst)
      · exact hg.imp_left (List.mem_of_ne_of_mem hgf)

/-- Fresh adapters over a file that opens all start, and are ready if the file takes everything. -/
theorem started_startAll (config : Config) (path : String) {file : OutputFile}
    (hopen : file.refusal = none) :
    let fresh := ofConfig config [] (JsonLinesSink.ofFile path file)
    fresh.startAll.Coupled ∧ fresh.Keeps fresh.startAll ∧ fresh.startAll.allStarted = true ∧
      (file.Takes → fresh.startAll.Ready) := by
  intro fresh
  obtain ⟨hcoupled, hkeeps, hsound, hstarted⟩ :=
    (coupled_ofConfig config [] path file).start_all (.inr hopen)
      (fun f => .inl (by cases f <;> rfl)) Framework.all
  have hall : ∀ f, fresh.startAll.state f = .started :=
    fun f => hstarted f (.inl (by cases f <;> decide))
  refine ⟨hcoupled, hkeeps, ?_, fun htakes => ⟨hcoupled, hsound htakes, hall⟩⟩
  rw [AdapterSet.allStarted, List.all_eq_true]
  exact fun f _ => decide_eq_true (hall f)

/-- Adapters that are started have their file open. -/
theorem Ready.isOpen (hs : s.Ready) : s.sink.isOpen = true :=
  hs.coupled.opened.mpr (hs.coupled.registrations_pos (hs.started .log4j))

/-- Stopping adapters loses nothing. -/
theorem Coupled.stop_all (hs : s.Coupled) (hsound : s.sink.Sound) (hfile : s.sink.file.Exists)
    (fs : List Framework) :
    (fs.foldl stop s).sink.finalFile.content =
        some (fs.foldl stop s).sink.finalFile.bytes ∧
      (fs.foldl stop s).sink.finalFile.bytes.toList = s.sink.given ∧
      (fs.foldl stop s).sink.written = s.sink.written := by
  induction fs generalizing s with
  | nil =>
    exact ⟨JsonLinesSink.exists_finalFile hsound hfile, JsonLinesSink.bytes_finalFile hsound, rfl⟩
  | cons f fs ih =>
    have hmove := move_stop hs f
    have hfile' := hs.exists_move hsound hfile hmove
    obtain ⟨hsound', hgiven, hwritten⟩ := hs.given_move hsound hmove
    obtain ⟨hcontent, hbytes, hwritten'⟩ := ih (hs.move hmove) hsound' hfile'
    refine ⟨hcontent, ?_, hwritten'.trans hwritten⟩
    rw [List.foldl_cons, hbytes, hgiven]
    exact List.append_nil _

end AdapterSet

namespace Replay

/-! ## The records of an input -/

/-- The record of an event of a line with its number, under the policy of its framework and with
no call stack. -/
def record? (clock : Nat → Instant) (config : Config) (event : Nat × CapturedEvent) :
    Option LogRecord :=
  event.2.normalize (config.policies.get event.2.framework) [] (clock event.1)

/-- The records of lines, of which the first has the given number. -/
def records (clock : Nat → Instant) (config : Config) (number : Nat) (raws : List (List UInt8)) :
    List LogRecord :=
  (events number raws).filterMap (record? clock config)

variable {clock clock' : Nat → Instant} {config : Config}

/-- An event has a record if and only if it is not filtered out. -/
theorem isSome_record? (clock : Nat → Instant) (config : Config) (event : Nat × CapturedEvent) :
    (record? clock config event).isSome = !event.2.isOff := by
  have hif : ∀ (p : Bool) (r : LogRecord), (if p then none else some r).isSome = !p := by
    intro p r
    cases p <;> rfl
  obtain ⟨n, e⟩ := event
  cases e with
  | log4j e => exact hif _ _
  | log4j2 e => exact hif _ _
  | logback e => exact hif _ _

/-- The records are those of the events that are not filtered out, one for one. -/
theorem forall₂_records (clock : Nat → Instant) (config : Config)
    (events : List (Nat × CapturedEvent)) :
    List.Forall₂ (fun event r => record? clock config event = some r)
      (events.filter fun event => !event.2.isOff) (events.filterMap (record? clock config)) := by
  induction events with
  | nil => exact .nil
  | cons event events ih =>
    have hsome := isSome_record? clock config event
    cases hr : record? clock config event with
    | none =>
      rw [hr] at hsome
      rw [List.filter_cons, if_neg (by rw [← hsome]; decide), List.filterMap_cons_none hr]
      exact ih
    | some r =>
      have hkept : (!event.2.isOff) = true := by rw [← hsome, hr]; rfl
      rw [List.filter_cons, if_pos hkept, List.filterMap_cons_some hr]
      exact .cons hr ih

theorem records_append (number : Nat) (raws more : List (List UInt8)) :
    records clock config number (raws ++ more) =
      records clock config number raws ++ records clock config (number + raws.length) more := by
  rw [records, events_append, List.filterMap_append]
  rfl

/-- A line that holds no event, or one that is filtered out, has no record. -/
theorem records_cons_silent {raw : List UInt8}
    (h : ∀ e, event? raw = some e → e.isOff = true) (number : Nat) (raws : List (List UInt8)) :
    records clock config number (raw :: raws) = records clock config (number + 1) raws := by
  cases he : event? raw with
  | none => rw [records, events_cons_none he, records]
  | some e =>
    have hnone : record? clock config (number, e) = none := by
      have hsome := isSome_record? clock config (number, e)
      rw [h e he] at hsome
      exact Option.not_isSome_iff_eq_none.mp (by rw [hsome]; decide)
    rw [records, events_cons_some he, List.filterMap_cons_none hnone, records]

/-- Of the numbers of lines, only the clock takes notice. -/
theorem records_congr {raws : List (List UInt8)} {n m : Nat}
    (h : ∀ i < raws.length, clock (n + i) = clock' (m + i)) :
    records clock config n raws = records clock' config m raws := by
  have htimed : ∀ (clock : Nat → Instant) number, records clock config number raws =
      (timed clock number raws).filterMap fun event : Instant × CapturedEvent =>
        event.2.normalize (config.policies.get event.2.framework) [] event.1 := by
    intro clock number
    rw [timed, List.filterMap_map]
    rfl
  rw [htimed, htimed, timed_congr h]

/-- A line without a record can be left out, but for the clock. -/
theorem records_leave_out {raw : List UInt8} (h : ∀ e, event? raw = some e → e.isOff = true)
    (front back : List (List UInt8)) :
    records (fun n => clock (if n ≤ front.length then n else n + 1)) config 1 (front ++ back) =
      records clock config 1 (front ++ raw :: back) := by
  rw [records_append, records_append, records_cons_silent h]
  congr 1
  · refine records_congr fun i hi => ?_
    rw [if_pos (by omega)]
  · refine records_congr fun i hi => ?_
    rw [if_neg (by omega)]
    congr 1
    omega

/-! ## The output -/

/-- A replay whose files open runs over adapters that are all started, and stops them. -/
theorem runFile_of_opens (clock : Nat → Instant) (config : Config) (inputPath outputPath : String)
    (source : Source) {output : OutputFile} (hopen : output.refusal = none) :
    let started := (AdapterSet.ofConfig config [] (JsonLinesSink.ofFile outputPath output)).startAll
    let result := run clock source started
    runFile clock config ⟨inputPath, .ok source⟩ ⟨outputPath, output⟩ =
      (match result.2 with
        | some cause => .error (.unreadable inputPath cause)
        | none => .ok ⟨result.1.summary, result.1.adapters.stopAll.sink.written⟩,
      result.1.adapters.stopAll.sink.finalFile) := by
  intro started result
  obtain ⟨-, -, hstarted, -⟩ := AdapterSet.started_startAll config outputPath hopen
  simp only [runFile, hstarted, if_true]
  show (match result.2 with | some _ => _ | none => _) = _
  cases result.2 <;> rfl

/-- Events add the lines of their records to a file that opens and takes everything, and these are
counted. -/
theorem content_replayed (clock : Nat → Instant) (config : Config) (path : String)
    {output : OutputFile} (hopen : output.refusal = none) (htakes : output.Takes)
    (events : List (Nat × CapturedEvent)) :
    let started := (AdapterSet.ofConfig config [] (JsonLinesSink.ofFile path output)).startAll
    let replayed := events.foldl (fun s (n, e) => s.append (clock n) e) started
    let records := events.filterMap (record? clock config)
    replayed.stopAll.sink.finalFile.content =
        some (output.bytes ++ (AdapterSet.lines records).toArray) ∧
      replayed.stopAll.sink.written = records.length := by
  intro started replayed records
  obtain ⟨-, hkeeps, -, hready⟩ := AdapterSet.started_startAll config path hopen
  have hnormalize : (fun event : Nat × CapturedEvent =>
      started.normalize (clock event.1) event.2) = record? clock config := by
    funext event
    rw [AdapterSet.normalize, hkeeps.policies, hkeeps.stack]
    rfl
  obtain ⟨hafter, hgiven, hwritten⟩ := (hready htakes).append_all clock events
  rw [hnormalize, hkeeps.given] at hgiven
  rw [hnormalize, hkeeps.written] at hwritten
  obtain ⟨hcontent, hbytes, hwritten'⟩ := hafter.coupled.stop_all hafter.sound
    (JsonLinesSink.exists_of_isOpen hafter.sound hafter.isOpen) Framework.all
  refine ⟨hcontent.trans (congrArg some (Array.toList_inj.mp ?_)), ?_⟩
  · rw [hbytes, hgiven, Array.toList_append]
    rfl
  · exact hwritten'.trans (hwritten.trans (Nat.zero_add _))

/-- A replay that meets no failure adds the records of its lines to the output, whatever was in it,
and counts the events. -/
theorem runFile_spec (clock : Nat → Instant) (config : Config) (inputPath outputPath : String)
    {source : Source} {output : OutputFile} (hread : source.failure = none)
    (hopen : output.refusal = none) (htakes : output.Takes) :
    ∃ report file,
      runFile clock config ⟨inputPath, .ok source⟩ ⟨outputPath, output⟩ = (.ok report, file) ∧
      file.content = some (output.bytes ++
        (AdapterSet.lines (records clock config 1 (Line.segments source.bytes))).toArray) ∧
      report.written = (records clock config 1 (Line.segments source.bytes)).length ∧
      report.summary.dispatched = (events 1 (Line.segments source.bytes)).length := by
  obtain ⟨hcontent, hwritten⟩ := content_replayed clock config outputPath hopen htakes
    (events 1 (Line.segments source.bytes))
  obtain ⟨hnone, hadapters, hdispatched⟩ := run_spec clock hread
    (AdapterSet.ofConfig config [] (JsonLinesSink.ofFile outputPath output)).startAll
  rw [← hadapters] at hcontent hwritten
  refine ⟨⟨_, _⟩, _, ?_, hcontent, hwritten, hdispatched⟩
  rw [runFile_of_opens clock config inputPath outputPath source hopen, hnone]

/-- A replay whose files open and do not fail appends to the output, whatever is in it, one line for
each line of the input that is not too long, not blank and holds an event that is not filtered out,
in their order: the compact text of the event's record under the policy of its framework, with no
call stack. It counts those lines, and hands on those events and the ones that are filtered out.
Without a line that adds nothing, every other line adds the same. -/
theorem runFile_appends (clock : Nat → Instant) (config : Config) (inputPath outputPath : String)
    (source : Source) (output : OutputFile) (hread : source.failure = none)
    (hopen : output.refusal = none) (htakes : output.Takes) :
    let replayed := events 1 (Line.segments source.bytes)
    ∃ report file records,
      runFile clock config ⟨inputPath, .ok source⟩ ⟨outputPath, output⟩ = (.ok report, file) ∧
      List.Forall₂ (fun event r =>
          event.2.normalize (config.policies.get event.2.framework) [] (clock event.1) = some r)
        (replayed.filter fun event => !event.2.isOff) records ∧
      file.content = some (output.bytes ++
        (records.flatMap fun r => r.toJson.render ++ [lineFeed]).toArray) ∧
      report.written = records.length ∧
      report.summary.dispatched =
        report.written + (replayed.filter fun event => event.2.isOff).length ∧
      ∀ front raw back (source' : Source), source'.failure = none →
        Line.segments source.bytes = front ++ raw :: back →
        Line.segments source'.bytes = front ++ back →
        (∀ e, event? raw = some e → e.isOff = true) →
        (runFile (fun n => clock (if n ≤ front.length then n else n + 1)) config
          ⟨inputPath, .ok source'⟩ ⟨outputPath, output⟩).2.content = file.content := by
  intro replayed
  obtain ⟨report, file, hrun, hcontent, hwritten, hdispatched⟩ :=
    runFile_spec clock config inputPath outputPath hread hopen htakes
  have hrecords := forall₂_records clock config replayed
  refine ⟨report, file, _, hrun, hrecords, ?_, hwritten, ?_, ?_⟩
  · rw [hcontent, AdapterSet.lines]
    rfl
  · have hsplit := List.length_eq_length_filter_add (l := replayed) fun event => event.2.isOff
    have hlength : (replayed.filter fun event => !event.2.isOff).length = report.written :=
      hrecords.length_eq.trans hwritten.symm
    rw [hdispatched, hsplit, hlength, Nat.add_comm]
  · intro front raw back source' hread' hsource hsource' hsilent
    obtain ⟨report', file', hrun', hcontent', -⟩ :=
      runFile_spec (fun n => clock (if n ≤ front.length then n else n + 1)) config inputPath
        outputPath hread' hopen htakes
    rw [hrun', hcontent', hcontent, hsource, hsource', records_leave_out hsilent]

/-- A blank line, an event and a line of noise. -/
def threeLines : List UInt8 :=
  bytesOf ("\n\x7b\"framework\":\"log4j\",\"event\":\x7b\"level\":\"INFO\",\"loggerName\":\"app\"," ++
    "\"message\":\"up\"\x7d\x7d\r\nnoise\n")

/-- Of three lines, one is added to what is in the output. -/
theorem runFile_appends_threeLines :
    ∃ report file, ∃ r : LogRecord,
      runFile (fun _ => .ofNanoseconds 0) .default ⟨"captured.jsonl", .ok ⟨[threeLines], none⟩⟩
        ⟨"records.jsonl", { content := some #[lineFeed] }⟩ = (.ok report, file) ∧
      file.content = some (#[lineFeed] ++ (r.toJson.render ++ [lineFeed]).toArray) ∧
      report.written = 1 ∧ report.summary.dispatched = 1 := by
  have hbytes : Source.bytes ⟨[threeLines], none⟩ = threeLines := by decide +kernel
  have hkept : ((events 1 (Line.segments threeLines)).filter fun event => !event.2.isOff).length =
      1 := by decide +kernel
  have hfiltered : ((events 1 (Line.segments threeLines)).filter fun event =>
      event.2.isOff).length = 0 := by decide +kernel
  obtain ⟨report, file, records, hrun, hrecords, hcontent, hwritten, hdispatched, -⟩ :=
    runFile_appends (fun _ => .ofNanoseconds 0) .default "captured.jsonl" "records.jsonl"
      ⟨[threeLines], none⟩ { content := some #[lineFeed] } rfl rfl fun _ => rfl
  rw [hbytes] at hrecords hdispatched
  have hlength : records.length = 1 := hrecords.length_eq.symm.trans hkept
  obtain ⟨r, rfl⟩ := List.length_eq_one_iff.mp hlength
  refine ⟨report, file, r, hrun, ?_, hwritten, ?_⟩
  · rw [hcontent, List.flatMap_singleton]
    rfl
  · rw [hdispatched, hfiltered, hwritten]
    rfl

end Replay

end LogOrigin
