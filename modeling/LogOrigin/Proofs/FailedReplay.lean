import LogOrigin.Proofs.DeviceFailures

/-!
# Replays that fail

A replay that cannot open one of its files leaves the output alone. One that fails while it reads
has the output open by then: what it has read goes into the output all the same, behind what was
there.
-/

namespace LogOrigin

open Json.Byte (lineFeed)

namespace AdapterSet

variable {s s' : AdapterSet JsonLinesSink}

/-! ## A file that does not open -/

theorem sink_start_of_refusal (hopen : s.sink.isOpen = false) {cause : IoError}
    (hr : s.sink.file.refusal = some cause) (f : Framework) : (s.start f).sink = s.sink := by
  by_cases hu : s.state f = .uninitialized
  · rw [start_of_refusal hu hopen hr]
  · rw [start_of_not_uninitialized hu]

/-- No adapter is started while the file is closed. -/
theorem Coupled.not_started (hs : s.Coupled) (hopen : s.sink.isOpen = false) (f : Framework) :
    s.state f ≠ .started := by
  intro hst
  rw [hs.opened.mpr (hs.registrations_pos hst)] at hopen
  cases hopen

theorem Coupled.sink_stop_of_closed (hs : s.Coupled) (hopen : s.sink.isOpen = false)
    (f : Framework) : (s.stop f).sink = s.sink := by
  rw [stop_of_not_started (hs.not_started hopen f)]

/-- Adapters over a file that does not open leave their sink alone. -/
theorem Coupled.startAll_of_refusal (hs : s.Coupled) (hopen : s.sink.isOpen = false)
    {cause : IoError} (hr : s.sink.file.refusal = some cause) :
    s.startAll.allStarted = false ∧ s.startAll.stopAll.sink = s.sink := by
  have hstart : s.startAll.Coupled ∧ s.startAll.sink = s.sink := by
    refine List.foldlRecOn (motive := fun mid => mid.Coupled ∧ mid.sink = s.sink) Framework.all
      start ⟨hs, rfl⟩ fun mid ⟨hmid, hsame⟩ f _ => ?_
    refine ⟨hmid.move (move_start mid f), ?_⟩
    rw [sink_start_of_refusal (by rw [hsame, hopen]) (by rw [hsame, hr]), hsame]
  have hstop : s.startAll.stopAll.Coupled ∧ s.startAll.stopAll.sink = s.sink := by
    refine List.foldlRecOn (motive := fun mid => mid.Coupled ∧ mid.sink = s.sink) Framework.all
      stop hstart fun mid ⟨hmid, hsame⟩ f _ => ?_
    refine ⟨hmid.move (move_stop hmid f), ?_⟩
    rw [hmid.sink_stop_of_closed (by rw [hsame, hopen]), hsame]
  refine ⟨?_, hstop.2⟩
  rw [← Bool.not_eq_true, allStarted, List.all_eq_true]
  exact fun hall => hstart.1.not_started (by rw [hstart.2, hopen]) .log4j
    (of_decide_eq_true (hall .log4j (by decide)))

/-! ## A file that opens -/

/-- The file is there and begins with these bytes. -/
structure Holds (before : List UInt8) (s : AdapterSet JsonLinesSink) : Prop where
  coupled : s.Coupled
  there : s.sink.file.Exists
  begins : before <+: s.sink.file.bytes.toList

section Holds

variable {before : List UInt8} (hs : s.Holds before)

include hs

theorem Holds.of_grows (hcoupled : s'.Coupled) (hgrows : s.sink.file.Grows s'.sink.file) :
    s'.Holds before :=
  ⟨hcoupled, hgrows.there hs.there, hs.begins.trans hgrows.begins⟩

theorem Holds.start (f : Framework) : (s.start f).Holds before :=
  hs.of_grows (hs.coupled.move (move_start s f)) (s.accounts_start f).grows

theorem Holds.append (now : Instant) (e : CapturedEvent) : (s.append now e).Holds before := by
  obtain ⟨⟨taken, haccounts⟩, -⟩ := hs.coupled.accounts_append now e
  exact hs.of_grows (hs.coupled.perform (.dispatch now e)) haccounts.grows

theorem Holds.stop (f : Framework) : (s.stop f).Holds before :=
  hs.of_grows (hs.coupled.move (move_stop hs.coupled f)) (hs.coupled.accounts_stop f).grows

end Holds

/-- The first start opens the file. -/
theorem holds_start (config : Config) (path : String) {file : OutputFile}
    (hopen : file.refusal = none) (f : Framework) :
    ((ofConfig config [] (JsonLinesSink.ofFile path file)).start f).Holds file.bytes.toList := by
  have hu : (ofConfig config [] (JsonLinesSink.ofFile path file)).state f = .uninitialized := by
    cases f <;> rfl
  have hgrows := ((ofConfig config [] (JsonLinesSink.ofFile path file)).accounts_start f).grows
  refine ⟨(coupled_ofConfig config [] path file).move (move_start _ f), ?_, hgrows.begins⟩
  rw [start_of_uninitialized hu]
  exact JsonLinesSink.exists_start _ (.inr ⟨rfl, hopen⟩)

/-- Adapters that start, take events and stop leave a file that opens there, and lose nothing of
what was in it. -/
theorem finalFile_replayed (config : Config) (path : String) {file : OutputFile}
    (hopen : file.refusal = none) (clock : Nat → Instant) (events : List (Nat × CapturedEvent)) :
    let started := (ofConfig config [] (JsonLinesSink.ofFile path file)).startAll
    let replayed := events.foldl (fun s (n, e) => s.append (clock n) e) started
    let left := replayed.stopAll.sink.finalFile
    left.Exists ∧ file.bytes.toList <+: left.bytes.toList := by
  intro started replayed left
  have hstarted : started.Holds file.bytes.toList :=
    ((holds_start config path hopen .log4j).start .log4j2).start .logback
  have hreplayed : replayed.Holds file.bytes.toList :=
    List.foldlRecOn (motive := Holds file.bytes.toList) events _ hstarted
      fun _ hs event _ => hs.append (clock event.1) event.2
  have hstopped : replayed.stopAll.Holds file.bytes.toList :=
    ((hreplayed.stop .log4j).stop .log4j2).stop .logback
  have hgrows := replayed.stopAll.sink.grows_finalFile
  exact ⟨hgrows.there hstopped.there, hstopped.begins.trans hgrows.begins⟩

end AdapterSet

namespace Replay

theorem run_of_failure (clock : Nat → Instant) {input : Source} {cause : IoError}
    (h : input.failure = some cause) (adapters : AdapterSet JsonLinesSink) :
    ∃ front rest, input.bytes = front ++ rest ∧ Line.EndsLine front ∧ lineFeed ∉ rest ∧
      (run clock input adapters).2 = some cause ∧
      (run clock input adapters).1.adapters =
        (events 1 (Line.segments front)).foldl (fun s (n, e) => s.append (clock n) e) adapters := by
  obtain ⟨front, rest, hbytes, hends, hrest, hlines⟩ :=
    Line.readAllFrom_of_failure Limits.lineBytes [] input h
  have hrun : run clock input adapters =
      ((Line.ofBytes Limits.lineBytes front).foldl (step clock) { adapters }, some cause) := by
    rw [run, Line.readAll, hlines]
    rfl
  obtain ⟨hadapters, -⟩ := steps_of_shows clock (Line.forall₂_ofBytes Limits.lineBytes front)
    { adapters }
  exact ⟨front, rest, hbytes, hends, hrest, by rw [hrun], by rw [hrun, hadapters]⟩

/-- A replay that fails while it reads has the output there, with what was in it and, if the output
takes everything, the records of the lines that a line feed ended before the failure. -/
theorem runFile_of_failure (clock : Nat → Instant) (config : Config)
    (inputPath outputPath : String) {source : Source} {output : OutputFile} {cause : IoError}
    (hread : source.failure = some cause) (hopen : output.refusal = none) :
    ∃ file,
      runFile clock config ⟨inputPath, .ok source⟩ ⟨outputPath, output⟩ =
        (.error (.unreadable inputPath cause), file) ∧
      file.Exists ∧ output.bytes.toList <+: file.bytes.toList ∧
      (output.Takes → ∃ front rest,
        source.bytes = front ++ rest ∧ Line.EndsLine front ∧ lineFeed ∉ rest ∧
        file.content = some (output.bytes ++
          (AdapterSet.lines (records clock config 1 (Line.segments front))).toArray)) := by
  obtain ⟨front, rest, hbytes, hends, hrest, hcause, hadapters⟩ := run_of_failure clock hread
    (AdapterSet.ofConfig config [] (JsonLinesSink.ofFile outputPath output)).startAll
  obtain ⟨hexists, hbegins⟩ := AdapterSet.finalFile_replayed config outputPath hopen clock
    (events 1 (Line.segments front))
  refine ⟨_, ?_, hexists, hbegins, fun htakes => ⟨front, rest, hbytes, hends, hrest, ?_⟩⟩
  · rw [runFile_of_opens clock config inputPath outputPath source hopen, hcause, hadapters]
  · exact (content_replayed clock config outputPath hopen htakes _).1

/-- A replay that fails leaves the output as it was if one of the files does not open. If reading
fails, the output is there, and nothing is lost of what was in it. If the output then takes
everything, it has been given one line for each event that is not filtered out, of the lines of the
input that a line feed ended before the failure. -/
theorem runFile_error {clock : Nat → Instant} {config : Config} {inputPath outputPath : String}
    {input : Except IoError Source} {output file : OutputFile} {error : ReplayError}
    (h : runFile clock config ⟨inputPath, input⟩ ⟨outputPath, output⟩ = (.error error, file)) :
    (∃ cause, input = .error cause ∧ error = .unreadable inputPath cause ∧ file = output) ∨
    (∃ source cause, input = .ok source ∧ output.refusal = some cause ∧
      error = .outputUnavailable outputPath ∧ file = output) ∨
    (∃ source cause, input = .ok source ∧ output.refusal = none ∧ source.failure = some cause ∧
      error = .unreadable inputPath cause ∧
      file.content = some file.bytes ∧ output.bytes.toList <+: file.bytes.toList ∧
      (output.Takes → ∃ front rest records,
        source.bytes = front ++ rest ∧ Line.EndsLine front ∧ lineFeed ∉ rest ∧
        List.Forall₂ (fun event r =>
            event.2.normalize (config.policies.get event.2.framework) [] (clock event.1) = some r)
          ((events 1 (Line.segments front)).filter fun event => !event.2.isOff) records ∧
        file.content = some (output.bytes ++
          (records.flatMap fun r => r.toJson.render ++ [lineFeed]).toArray))) := by
  cases input with
  | error cause =>
    cases h
    exact .inl ⟨cause, rfl, rfl, rfl⟩
  | ok source =>
    right
    cases hopen : output.refusal with
    | some cause =>
      obtain ⟨hnone, hsame⟩ := (AdapterSet.coupled_ofConfig config [] outputPath
        output).startAll_of_refusal rfl hopen
      simp only [runFile, hnone, Bool.false_eq_true, if_false, hsame] at h
      cases h
      exact .inl ⟨source, cause, rfl, rfl, rfl, rfl⟩
    | none =>
      cases hread : source.failure with
      | none =>
        rw [runFile_of_opens clock config inputPath outputPath source hopen,
          (run_spec clock hread _).1] at h
        cases h
      | some cause =>
        obtain ⟨left, hrun, hexists, hbegins, hlines⟩ :=
          runFile_of_failure clock config inputPath outputPath hread hopen
        cases hrun.symm.trans h
        refine .inr ⟨source, cause, rfl, rfl, hread, rfl, hexists, hbegins, fun htakes => ?_⟩
        obtain ⟨front, rest, hbytes, hends, hrest, hcontent⟩ := hlines htakes
        exact ⟨front, rest, _, hbytes, hends, hrest, forall₂_records clock config _, hcontent⟩

/-- An input that fails within its fourth line. -/
def brokenOff : Source := ⟨[threeLines, [0x7B]], some (.other "Input/output error (os error 5)")⟩

/-- The event among the three lines before the failure is added to the output. -/
theorem runFile_error_brokenOff :
    ∃ error file, ∃ r : LogRecord,
      runFile (fun _ => .ofNanoseconds 0) .default ⟨"captured.jsonl", .ok brokenOff⟩
        ⟨"records.jsonl", { content := some #[lineFeed] }⟩ = (.error error, file) ∧
      file.content = some (#[lineFeed] ++ (r.toJson.render ++ [lineFeed]).toArray) := by
  have hkept : ((events 1 (Line.segments threeLines)).filter fun event => !event.2.isOff).length =
      1 := by decide +kernel
  have hread : brokenOff.failure = some (.other "Input/output error (os error 5)") := rfl
  have hopen : OutputFile.refusal { content := some #[lineFeed] } = none := rfl
  obtain ⟨file, hrun, -⟩ := runFile_of_failure (fun _ => .ofNanoseconds 0) .default
    "captured.jsonl" "records.jsonl" hread hopen
  obtain ⟨_, hnone, -⟩ | ⟨_, _, -, hnone, -⟩ | ⟨source, _, hsource, -, -, -, -, -, hlines⟩ :=
    runFile_error hrun
  · cases hnone
  · cases hnone
  · cases hsource
    obtain ⟨front, rest, records, hbytes, hends, hrest, hrecords, hcontent⟩ := hlines fun _ => rfl
    have hfront : threeLines = front := Line.EndsLine.eq_of_append (.inr (by decide +kernel)) hends
      (by decide : lineFeed ∉ [0x7B]) hrest hbytes
    rw [← hfront] at hrecords
    have hlength : records.length = 1 := hrecords.length_eq.symm.trans hkept
    obtain ⟨r, rfl⟩ := List.length_eq_one_iff.mp hlength
    refine ⟨_, _, r, hrun, hcontent.trans ?_⟩
    rw [List.flatMap_singleton]
    rfl

/-- A directory as the input makes an output come into being. -/
theorem runFile_directory :
    let replay := runFile (fun _ => .ofNanoseconds 0) .default
      ⟨"captured", .ok ⟨[], some .isDirectory⟩⟩ ⟨"records.jsonl", { content := none }⟩
    replay.1 = .error (.unreadable "captured" .isDirectory) ∧ replay.2.content ≠ none := by
  have hread : Source.failure ⟨[], some .isDirectory⟩ = some .isDirectory := rfl
  have hopen : OutputFile.refusal { content := none } = none := rfl
  obtain ⟨file, hrun, hexists, -⟩ := runFile_of_failure (fun _ => .ofNanoseconds 0) .default
    "captured" "records.jsonl" hread hopen
  rw [hrun]
  exact ⟨rfl, by rw [hexists]; exact Option.some_ne_none _⟩

end Replay

end LogOrigin
