import LogOrigin.CommandLine
import LogOrigin.Proofs.FailedReplay
import LogOrigin.Proofs.ReplaySummary

/-!
# Runs of the command

A run succeeds if the configuration that was asked for can be read, the input can be read to its end
and the output opens; nothing else that is in the files decides on its status (`run_of_read`). The
two ways to load a configuration agree on every file that holds one. What a successful run says
about malformed lines accounts for all of them.
-/

namespace LogOrigin

/-! ## Loading a configuration -/

namespace Config

/-- The configuration that the content of a file describes, if it is text that describes one. -/
def raw? (content : Except IoError (List UInt8)) : Option RawConfig := do
  let bytes ← content.toOption
  let s ← textOf? bytes
  (Toml.decode RawConfig.decode s).toOption

theorem toOption_read (path : String) (content : Except IoError (List UInt8)) :
    (read path content).toOption = raw? content := by
  cases content with
  | error cause => rfl
  | ok bytes =>
    simp only [read, raw?, Except.toOption, Option.bind_eq_bind, Option.bind_some]
    cases textOf? bytes with
    | none => rfl
    | some s =>
      simp only [Option.bind_some]
      cases Toml.decode RawConfig.decode s <;> rfl

section Load

variable (path : String) {content : Except IoError (List UInt8)}

theorem read_of_some {raw : RawConfig} (h : raw? content = some raw) :
    read path content = .ok raw := by
  rw [← toOption_read path] at h
  cases hread : read path content with
  | error e =>
    rw [hread] at h
    cases h
  | ok raw' =>
    rw [hread] at h
    cases h
    rfl

theorem read_of_none (h : raw? content = none) : ∃ e, read path content = .error e := by
  rw [← toOption_read path] at h
  cases hread : read path content with
  | error e => exact ⟨e, rfl⟩
  | ok raw =>
    rw [hread] at h
    cases h

/-- A file that describes a configuration can be read. -/
theorem isOk_of_some {raw : RawConfig} (h : raw? content = some raw) : content.isOk = true := by
  cases content with
  | error cause => cases h
  | ok bytes => rfl

theorem loadStrict_of_some {raw : RawConfig} (h : raw? content = some raw) :
    loadStrict path content = .ok (ofRaw raw, warnings raw) := by
  rw [loadStrict, read_of_some path h]
  rfl

theorem loadStrict_of_none (h : raw? content = none) :
    ∃ e, read path content = .error e ∧ loadStrict path content = .error e := by
  obtain ⟨e, he⟩ := read_of_none path h
  refine ⟨e, he, ?_⟩
  rw [loadStrict, he]
  rfl

theorem loadLenient_of_some {raw : RawConfig} (h : raw? content = some raw) :
    loadLenient path content true = (ofRaw raw, warnings raw) := by
  rw [loadLenient, if_pos rfl, loadStrict_of_some path h]

/-- A file that is there and is of no use gives the defaults with one warning. -/
theorem loadLenient_of_none (h : raw? content = none) :
    ∃ e, loadLenient path content true = (default, [.unusable e]) := by
  obtain ⟨e, -, hstrict⟩ := loadStrict_of_none path h
  refine ⟨e, ?_⟩
  rw [loadLenient, if_pos rfl, hstrict]

/-- A file that a look does not find gives the defaults, and nothing is said about it. -/
theorem loadLenient_of_not_found : loadLenient path content false = (default, []) :=
  if_neg Bool.false_ne_true

end Load

end Config

/-! ## The ways that a replay can go -/

namespace Replay

variable (clock : Nat → Instant) (config : Config) (inputPath outputPath : String)

/-- Nothing is done to an output that does not open. -/
theorem runFile_of_refusal (source : Source) {output : OutputFile} {cause : IoError}
    (h : output.refusal = some cause) :
    runFile clock config ⟨inputPath, .ok source⟩ ⟨outputPath, output⟩ =
      (.error (.outputUnavailable outputPath), output) := by
  obtain ⟨hnone, hsame⟩ :=
    (AdapterSet.coupled_ofConfig config [] outputPath output).startAll_of_refusal rfl h
  simp only [runFile, hnone, Bool.false_eq_true, if_false, hsame]
  rfl

/-- A replay that nothing is in the way of reports what the lines of its input come to. -/
theorem runFile_of_delivers {source : Source} {bytes : List UInt8} (h : source.Delivers bytes)
    {output : OutputFile} (hopen : output.refusal = none) :
    ∃ written file, runFile clock config ⟨inputPath, .ok source⟩ ⟨outputPath, output⟩ =
      (.ok ⟨.ofLines (Line.ofBytes Limits.lineBytes bytes), written⟩, file) := by
  have hrun := runFile_of_opens clock config inputPath outputPath source hopen
  simp only at hrun
  rw [(run_summary clock h _).2, run_eq clock h] at hrun
  exact ⟨_, _, hrun⟩

/-- A replay comes to a report if its input can be read to its end and its output opens. -/
theorem exists_report_iff (input : Except IoError Source) (output : OutputFile) :
    (∃ report, (runFile clock config ⟨inputPath, input⟩ ⟨outputPath, output⟩).1 = .ok report) ↔
      (∃ source, input = .ok source ∧ source.failure = none) ∧ output.refusal = none := by
  constructor
  · rintro ⟨report, hreport⟩
    cases input with
    | error cause => cases hreport
    | ok source =>
      cases hopen : output.refusal with
      | some cause =>
        rw [runFile_of_refusal clock config inputPath outputPath source hopen] at hreport
        cases hreport
      | none =>
        cases hread : source.failure with
        | some cause =>
          obtain ⟨file, hrun, -⟩ :=
            runFile_of_failure clock config inputPath outputPath hread hopen
          rw [hrun] at hreport
          cases hreport
        | none => exact ⟨⟨source, rfl, hread⟩, rfl⟩
  · rintro ⟨⟨source, rfl, hread⟩, hopen⟩
    obtain ⟨written, file, hrun⟩ :=
      runFile_of_delivers clock config inputPath outputPath ⟨rfl, hread⟩ hopen
    exact ⟨_, congrArg Prod.fst hrun⟩

/-- Every fault of a line is reported or counted among those that are not. -/
theorem Summary.length_errors_ofLines (lines : List Line) :
    (Summary.ofLines lines).errors.length + (Summary.ofLines lines).unreported =
      (Summary.ofLines lines).malformed := by
  have hle : (Summary.ofLines lines).errors.length ≤ (Summary.ofLines lines).malformed :=
    List.length_take_le' _ _
  exact Nat.add_sub_cancel' hle

end Replay

/-! ## What is said on the standard error output -/

namespace CommandLine

/-- The line starts with these words. -/
def starts (words line : String) : Bool := words.toList.isPrefixOf line.toList

/-- The line says why a line of the input was skipped. -/
def isSkipped : String → Bool := starts "Skipped: "

/-- The line says how many more lines of the input were skipped. -/
def isRemainder : String → Bool := starts "... and "

/-- What is said when so many more lines of the input were skipped. -/
def remainderLines (more : Nat) : List String :=
  if more = 0 then [] else ["... and " ++ toString more ++ " more malformed lines"]

theorem starts_append (words m : String) : starts words (words ++ m) = true := by
  simp [starts]

theorem starts_append_of_ne {words others : String} {c d : Char} {cs ds : List Char}
    (hwords : words.toList = c :: cs) (hothers : others.toList = d :: ds) (hne : c ≠ d)
    (m : String) : starts words (others ++ m) = false := by
  rw [starts, String.toList_append, hwords, hothers, List.cons_append, List.isPrefixOf_cons_cons,
    beq_false_of_ne hne, Bool.false_and]

theorem isSkipped_of_mem_remainderLines {more : Nat} {line : String}
    (h : line ∈ remainderLines more) : isSkipped line = false ∧ isRemainder line = true := by
  rw [remainderLines] at h
  split at h
  · cases h
  · rw [List.mem_singleton.mp h, String.append_assoc]
    exact ⟨starts_append_of_ne rfl rfl (by decide) _, starts_append _ _⟩

/-- What is said about warnings and about skipped lines, by kind. -/
theorem complaints_by_kind (warnings : List ConfigWarning) (s : Replay.Summary) :
    let complaints := (warnings.map fun w => "Warning: " ++ w.message) ++ skippedLines s
    complaints.countP isSkipped = s.errors.length ∧
      complaints.filter isRemainder = remainderLines s.unreported := by
  intro complaints
  have hcomplaints : complaints = (warnings.map fun w => "Warning: " ++ w.message) ++
      ((s.errors.map fun l => "Skipped: " ++ l.message) ++ remainderLines s.unreported) := rfl
  have hwarning (w : ConfigWarning) : isSkipped ("Warning: " ++ w.message) = false ∧
      isRemainder ("Warning: " ++ w.message) = false :=
    ⟨starts_append_of_ne rfl rfl (by decide) _, starts_append_of_ne rfl rfl (by decide) _⟩
  have hskipped (l : SkippedLine) : isSkipped ("Skipped: " ++ l.message) = true ∧
      isRemainder ("Skipped: " ++ l.message) = false :=
    ⟨starts_append _ _, starts_append_of_ne rfl rfl (by decide) _⟩
  constructor
  · have hrest : (remainderLines s.unreported).countP isSkipped = 0 :=
      List.countP_eq_zero.mpr fun line hline => by
        simp [(isSkipped_of_mem_remainderLines hline).1]
    rw [hcomplaints, List.countP_append, List.countP_append, hrest, List.countP_map,
      List.countP_map]
    simp [Function.comp_def, hwarning, hskipped]
  · have hrest : (remainderLines s.unreported).filter isRemainder = remainderLines s.unreported :=
      List.filter_eq_self.mpr fun line hline => (isSkipped_of_mem_remainderLines hline).2
    rw [hcomplaints, List.filter_append, List.filter_append, hrest, List.filter_map,
      List.filter_map]
    simp [Function.comp_def, hwarning, hskipped]

/-! ## The ways that a run can go -/

/-- A configuration that can be read is loaded alike in both ways. One that cannot be read gives the
defaults, with one warning if a look at its path finds it and with none otherwise. -/
theorem loadLenient_files (files : Files) (path : String) :
    let lenient := Config.loadLenient path (files.config path) (files.found path)
    (∀ raw, Config.raw? (files.config path) = some raw →
      Config.loadStrict path (files.config path) = .ok (Config.ofRaw raw, Config.warnings raw) ∧
        lenient = (Config.ofRaw raw, Config.warnings raw)) ∧
    (Config.raw? (files.config path) = none → files.found path = true →
      ∃ warning, lenient = (Config.default, [warning])) ∧
    (files.found path = false → lenient = (Config.default, [])) := by
  refine ⟨fun raw hraw => ⟨Config.loadStrict_of_some path hraw, ?_⟩, fun hnone hfound => ?_,
    fun hmissing => ?_⟩
  · have hfound : files.found path = true := files.found_of_read path (Config.isOk_of_some hraw)
    rw [hfound]
    exact Config.loadLenient_of_some path hraw
  · rw [hfound]
    obtain ⟨e, he⟩ := Config.loadLenient_of_none path hnone
    exact ⟨_, he⟩
  · rw [hmissing]
    exact Config.loadLenient_of_not_found path

section Run

variable (clock : Nat → Instant) {files : Files} {o : Options}

/-- A configuration is loaded unless one was asked for that cannot be read. -/
theorem exists_loadConfig_iff :
    (∃ loaded, loadConfig files o = .ok loaded) ↔
      ∀ path, o.config = some path → (Config.raw? (files.config path)).isSome = true := by
  rw [loadConfig]
  cases o.config with
  | none => simp
  | some path =>
    simp only [Option.some.injEq, forall_eq']
    cases hraw : Config.raw? (files.config path) with
    | none =>
      obtain ⟨e, -, hstrict⟩ := Config.loadStrict_of_none path hraw
      simp [hstrict]
    | some raw => simp [Config.loadStrict_of_some path hraw]

theorem runReplay_of_misconfigured {e : ConfigError} (h : loadConfig files o = .error e) :
    runReplay clock files o =
      { status := failure, complaints := [errorLine (.config e)] } := by
  rw [runReplay, h]

variable {config : Config} {warnings : List ConfigWarning}
  (hload : loadConfig files o = .ok (config, warnings)) {file : OutputFile}

include hload

theorem runReplay_of_error {e : ReplayError}
    (h : Replay.runFile clock config ⟨o.input, files.input o.input⟩
      ⟨o.output, files.output o.output⟩ = (.error e, file)) :
    runReplay clock files o = {
      status := failure
      complaints := (warnings.map fun w => "Warning: " ++ w.message) ++ [errorLine (.replay e)]
      output := some ⟨o.output, file⟩ } := by
  simp only [runReplay, hload, h]

theorem runReplay_of_ok {report : Replay.Report}
    (h : Replay.runFile clock config ⟨o.input, files.input o.input⟩
      ⟨o.output, files.output o.output⟩ = (.ok report, file)) :
    runReplay clock files o = {
      status := success
      printed := reportLine report o.output
      complaints := (warnings.map fun w => "Warning: " ++ w.message) ++ skippedLines report.summary
      output := some ⟨o.output, file⟩ } := by
  simp only [runReplay, hload, h]

end Run

/-! ## What decides on a run -/

/-- Other files that are as good for a run: the same of them can be read and opened, whatever is in
them. -/
structure Files.AsGood (files files' : Files) (o : Options) : Prop where
  config : ∀ path, o.config = some path →
    (Config.raw? (files'.config path)).isSome = (Config.raw? (files.config path)).isSome
  input : (files'.input o.input).map (·.failure) = (files.input o.input).map (·.failure)
  output : (files'.output o.output).refusal = (files.output o.output).refusal

theorem map_failure_eq_iff (input : Except IoError Source) :
    input.map (·.failure) = .ok none ↔ ∃ source, input = .ok source ∧ source.failure = none := by
  cases input <;> simp [Except.map]

section Status

variable (clock : Nat → Instant) (files : Files) (o : Options)

/-- A run succeeds if nothing is in the way of it, and fails otherwise. -/
theorem status_runReplay :
    ((runReplay clock files o).status = success ↔
      (∀ path, o.config = some path → (Config.raw? (files.config path)).isSome = true) ∧
        (∃ source, files.input o.input = .ok source ∧ source.failure = none) ∧
        (files.output o.output).refusal = none) ∧
      ((runReplay clock files o).status = success ∨
        (runReplay clock files o).status = failure) := by
  rw [← exists_loadConfig_iff]
  cases hload : loadConfig files o with
  | error e =>
    rw [runReplay_of_misconfigured clock hload]
    exact ⟨⟨nofun, fun ⟨⟨_, h⟩, _⟩ => nomatch h⟩, .inr rfl⟩
  | ok loaded =>
    obtain ⟨config, warnings⟩ := loaded
    rw [← Replay.exists_report_iff clock config o.input o.output]
    cases hrun : Replay.runFile clock config ⟨o.input, files.input o.input⟩
        ⟨o.output, files.output o.output⟩ with
    | mk result file =>
      cases result with
      | error e =>
        rw [runReplay_of_error clock hload hrun]
        exact ⟨⟨nofun, fun ⟨_, _, h⟩ => nomatch h⟩, .inr rfl⟩
      | ok report =>
        rw [runReplay_of_ok clock hload hrun]
        exact ⟨⟨fun _ => ⟨⟨_, rfl⟩, report, rfl⟩, fun _ => rfl⟩, .inl rfl⟩

/-- What is in the files makes no difference to the status, as long as they are as good. -/
theorem status_runReplay_congr {files files' : Files} {o : Options} (h : files.AsGood files' o)
    (clock' : Nat → Instant) :
    (runReplay clock' files' o).status = (runReplay clock files o).status := by
  obtain ⟨hsuccess, heither⟩ := status_runReplay clock files o
  obtain ⟨hsuccess', heither'⟩ := status_runReplay clock' files' o
  have hconfig : (∀ path, o.config = some path →
        (Config.raw? (files'.config path)).isSome = true) ↔
      ∀ path, o.config = some path → (Config.raw? (files.config path)).isSome = true :=
    forall₂_congr fun path hpath => by rw [h.config path hpath]
  rw [hconfig, ← map_failure_eq_iff, h.input, h.output, map_failure_eq_iff, ← hsuccess] at hsuccess'
  obtain hok | hfails := heither
  · rw [hok, hsuccess'.mpr hok]
  · have hnot : ¬ (runReplay clock' files' o).status = success := fun hok => by
      rw [hsuccess'.mp hok] at hfails
      cases hfails
    rw [hfails, heither'.resolve_left hnot]

/-- A run that fails on its configuration, or because its input does not open, leaves the output as
it is. -/
theorem output_runReplay
    (h : (∃ path, o.config = some path ∧ Config.raw? (files.config path) = none) ∨
      ∃ cause, files.input o.input = .error cause) :
    (runReplay clock files o).status = failure ∧
      ∀ left, (runReplay clock files o).output = some left →
        left = ⟨o.output, files.output o.output⟩ := by
  cases hload : loadConfig files o with
  | error e =>
    rw [runReplay_of_misconfigured clock hload]
    exact ⟨rfl, nofun⟩
  | ok loaded =>
    obtain ⟨config, warnings⟩ := loaded
    obtain ⟨path, hpath, hnone⟩ | ⟨cause, hinput⟩ := h
    · have hsome := exists_loadConfig_iff.mp ⟨_, hload⟩ path hpath
      rw [hnone] at hsome
      cases hsome
    · have hrun : Replay.runFile clock config ⟨o.input, files.input o.input⟩
          ⟨o.output, files.output o.output⟩ =
          (.error (.unreadable o.input cause), files.output o.output) := by
        rw [hinput]
        rfl
      rw [runReplay_of_error clock hload hrun]
      exact ⟨rfl, fun left hleft => by cases hleft; rfl⟩

/-- What a run that succeeds says about its input. -/
theorem report_runReplay (h : (runReplay clock files o).status = success) :
    ∃ source report more, files.input o.input = .ok source ∧
      report.summary = .ofLines (Line.ofBytes Limits.lineBytes source.bytes) ∧
      (runReplay clock files o).printed = reportLine report o.output ∧
      (runReplay clock files o).complaints.filter isRemainder = remainderLines more ∧
      (runReplay clock files o).complaints.countP isSkipped + more =
        report.summary.malformed := by
  obtain ⟨hconfigured, ⟨source, hinput, hread⟩, hopen⟩ := (status_runReplay clock files o).1.mp h
  obtain ⟨⟨config, warnings⟩, hload⟩ := exists_loadConfig_iff.mpr hconfigured
  obtain ⟨written, file, hrun⟩ :=
    Replay.runFile_of_delivers clock config o.input o.output ⟨rfl, hread⟩ hopen
  rw [← hinput] at hrun
  obtain ⟨hskipped, hremainder⟩ := complaints_by_kind warnings
    (.ofLines (Line.ofBytes Limits.lineBytes source.bytes))
  rw [runReplay_of_ok clock hload hrun]
  refine ⟨source, _, _, hinput, rfl, rfl, hremainder, ?_⟩
  rw [hskipped]
  exact Replay.Summary.length_errors_ofLines _

end Status

/-- A run with arguments that can be followed has status zero if and only if the configuration, if
one was asked for, can be read, the input can be read to its end and the output opens. Other values
in a configuration, another default configuration and other lines of the input make no difference
to the status. The two ways to load a configuration agree wherever there is one. Where a look at the
path finds a file that is of no use, the lenient one gives the defaults with one warning; where it
finds nothing, for whatever reason, the defaults without. Unless the configuration and the input
open, the output stays as it is. A run that succeeds accounts for each malformed line of its
input: it says why it is skipped, or counts it among those that are skipped as well. -/
theorem run_of_read (clock : Nat → Instant) (files : Files) {arguments : List String} {o : Options}
    (h : read arguments = .ok (.replay o)) :
    let outcome := run clock files arguments
    (outcome.status = 0 ↔
      (∀ path, o.config = some path → (Config.raw? (files.config path)).isSome = true) ∧
        (∃ source, files.input o.input = .ok source ∧ source.failure = none) ∧
        (files.output o.output).refusal = none) ∧
    (outcome.status = success ∨ outcome.status = failure) ∧
    (∀ clock' files', files.AsGood files' o →
      (run clock' files' arguments).status = outcome.status) ∧
    (∀ path,
      let lenient := Config.loadLenient path (files.config path) (files.found path)
      (∀ raw, Config.raw? (files.config path) = some raw →
        Config.loadStrict path (files.config path) = .ok (Config.ofRaw raw, Config.warnings raw) ∧
          lenient = (Config.ofRaw raw, Config.warnings raw)) ∧
      (Config.raw? (files.config path) = none → files.found path = true →
        ∃ warning, lenient = (Config.default, [warning])) ∧
      (files.found path = false → lenient = (Config.default, []))) ∧
    ((∃ path, o.config = some path ∧ Config.raw? (files.config path) = none) ∨
        (∃ cause, files.input o.input = .error cause) →
      outcome.status = failure ∧
        ∀ left, outcome.output = some left → left = ⟨o.output, files.output o.output⟩) ∧
    (outcome.status = success →
      ∃ source report more, files.input o.input = .ok source ∧
        report.summary = .ofLines (Line.ofBytes Limits.lineBytes source.bytes) ∧
        outcome.printed = reportLine report o.output ∧
        outcome.complaints.filter isRemainder = remainderLines more ∧
        outcome.complaints.countP isSkipped + more = report.summary.malformed) := by
  intro outcome
  have hrun (clock' : Nat → Instant) (files' : Files) :
      run clock' files' arguments = runReplay clock' files' o := by
    rw [run, h]
  have houtcome : outcome = runReplay clock files o := hrun clock files
  obtain ⟨hsuccess, heither⟩ := status_runReplay clock files o
  rw [houtcome]
  refine ⟨hsuccess, heither, fun clock' files' hgood => ?_, fun path => ?_,
    output_runReplay clock files o, report_runReplay clock files o⟩
  · rw [hrun]
    exact status_runReplay_congr clock hgood clock'
  · exact loadLenient_files files path

/-- A configuration with a value out of range, three lines as the input, and no output so far. -/
def unevenFiles : Files where
  defaultConfig := defaultConfigPath none none
  config _ := .ok (bytesOf "[log4j]\nskip_frames = 65\n")
  input _ := .ok ⟨[Replay.threeLines], none⟩
  output _ := {}

/-- A value out of range and a line of noise do not fail a run. -/
theorem run_unevenFiles :
    let outcome := run (fun _ => .ofNanoseconds 0) unevenFiles
      ["-i", "captured.jsonl", "-o", "records.jsonl", "-c", "config.toml"]
    outcome.status = 0 ∧ ∃ more, outcome.complaints.filter isRemainder = remainderLines more ∧
      outcome.complaints.countP isSkipped + more = 1 := by
  have hread : read ["-i", "captured.jsonl", "-o", "records.jsonl", "-c", "config.toml"] =
      .ok (.replay ⟨"captured.jsonl", "records.jsonl", some "config.toml", false⟩) := rfl
  have hraw : (Config.raw? (unevenFiles.config "config.toml")).isSome = true := by decide +kernel
  have hmalformed : (Replay.Summary.ofLines (Line.ofBytes Limits.lineBytes
      (Source.bytes ⟨[Replay.threeLines], none⟩))).malformed = 1 := by decide +kernel
  obtain ⟨hstatus, -, -, -, -, hreport⟩ :=
    run_of_read (fun _ => .ofNanoseconds 0) unevenFiles hread
  have hsuccess := hstatus.mpr
    ⟨fun path hpath => by cases hpath; exact hraw, ⟨_, rfl, rfl⟩, rfl⟩
  obtain ⟨source, report, more, hsource, hsummary, -, hremainder, hcount⟩ := hreport hsuccess
  cases hsource
  rw [hsummary, hmalformed] at hcount
  exact ⟨hsuccess, more, hremainder, hcount⟩

end CommandLine

end LogOrigin
