import LogOrigin.Proofs.FailingFile

/-!
# Adapters over a file that may fail

Whatever the file takes, every byte that adapters give their sink is in the file, is pending, or was
thrown away when the file was closed (`AdapterSet.discarded`). The sink counts a record when its
writer takes the line, so its count covers the lines that are thrown away later as well as those
that reach the file.
-/

namespace LogOrigin

open Json.Byte (lineFeed)
open scoped List

namespace AdapterSet

variable {s mid s' : AdapterSet JsonLinesSink} {f : Framework}

/-- Every byte is accounted for between two states. Of each record that is forwarded, the line is
taken or some of its text, and it counts in the first case. What is left of the bytes that were
given is in order, and the file has lost nothing. -/
structure Accounts (s s' : AdapterSet JsonLinesSink) (records : List LogRecord)
    (discarded : List UInt8) (taken : List (List UInt8)) : Prop where
  leaves : List.Forall₂ LogRecord.Leaves records taken
  ordered : s'.sink.given.Sublist (s.sink.given ++ taken.flatten)
  complete : (s'.sink.given ++ discarded).Perm (s.sink.given ++ taken.flatten)
  grows : s.sink.file.Grows s'.sink.file
  written : s'.sink.written = s.sink.written + taken.countP (lineFeed ∈ ·)

/-! ## Single calls -/

/-- Only the end of what was given may be thrown away where no record is forwarded. -/
theorem accounts_of_given {discarded : List UInt8}
    (hgiven : s'.sink.given ++ discarded = s.sink.given)
    (hgrows : s.sink.file.Grows s'.sink.file)
    (hwritten : s'.sink.written = s.sink.written) : s.Accounts s' [] discarded [] where
  leaves := .nil
  ordered := by
    rw [← hgiven, List.flatten_nil, List.append_nil]
    exact List.sublist_append_left ..
  complete := by
    rw [hgiven, List.flatten_nil, List.append_nil]
  grows := hgrows
  written := hwritten

theorem accounts_refl (s : AdapterSet JsonLinesSink) : s.Accounts s [] [] [] :=
  accounts_of_given (List.append_nil _) (.refl _) rfl

/-- What happens one after the other is accounted for together. -/
theorem Accounts.trans {records records' : List LogRecord} {discarded discarded' : List UInt8}
    {taken taken' : List (List UInt8)} (h : s.Accounts mid records discarded taken)
    (h' : mid.Accounts s' records' discarded' taken') :
    s.Accounts s' (records ++ records') (discarded ++ discarded') (taken ++ taken') where
  leaves := List.rel_append h.leaves h'.leaves
  ordered := by
    rw [List.flatten_append, ← List.append_assoc]
    exact h'.ordered.trans (h.ordered.append_right _)
  complete := by
    calc s'.sink.given ++ (discarded ++ discarded')
      _ ~ s'.sink.given ++ (discarded' ++ discarded) := List.perm_append_comm.append_left _
      _ = s'.sink.given ++ discarded' ++ discarded := (List.append_assoc ..).symm
      _ ~ mid.sink.given ++ taken'.flatten ++ discarded := h'.complete.append_right _
      _ = mid.sink.given ++ (taken'.flatten ++ discarded) := List.append_assoc ..
      _ ~ mid.sink.given ++ (discarded ++ taken'.flatten) := List.perm_append_comm.append_left _
      _ = mid.sink.given ++ discarded ++ taken'.flatten := (List.append_assoc ..).symm
      _ ~ s.sink.given ++ taken.flatten ++ taken'.flatten := h.complete.append_right _
      _ = s.sink.given ++ (taken ++ taken').flatten := by
        rw [List.flatten_append, List.append_assoc]
  grows := h.grows.trans h'.grows
  written := by rw [h'.written, h.written, List.countP_append, Nat.add_assoc]

theorem accounts_start (s : AdapterSet JsonLinesSink) (f : Framework) :
    s.Accounts (s.start f) [] [] [] := by
  by_cases hu : s.state f = .uninitialized
  · have hgiven := (s.sink.bytes_start (s.bindings.get f).logSystem).1
    rw [start_of_uninitialized hu]
    exact accounts_of_given ((List.append_nil _).trans hgiven)
      (s.sink.grows_start (s.bindings.get f).logSystem)
      (s.sink.written_start (s.bindings.get f).logSystem)
  · rw [start_of_not_uninitialized hu]
    exact s.accounts_refl

/-- Starting an adapter does not close the file. -/
theorem isOpen_start (s : AdapterSet JsonLinesSink) (f : Framework) (h : s.sink.isOpen = true) :
    (s.start f).sink.isOpen = true := by
  by_cases hu : s.state f = .uninitialized
  · rw [start_of_uninitialized hu]
    obtain ⟨-, hregisters⟩ | ⟨cause, -, -, heq⟩ :=
      JsonLinesSink.start_cases (s.bindings.get f).logSystem s.sink
    · exact hregisters.isOpen
    · rw [heq]
      exact h
  · rwa [start_of_not_uninitialized hu]

theorem Coupled.accounts_stop (hs : s.Coupled) (f : Framework) :
    s.Accounts (s.stop f) [] (s.sink.lost (s.stop f).sink) [] := by
  by_cases hst : s.state f = .started
  · obtain ⟨hgiven, hgrows⟩ := s.sink.given_shutdown
    rw [stop_of_started hs hst]
    exact accounts_of_given hgiven hgrows s.sink.shutdown_frame.2.2.1
  · have hsame : (s.stop f).sink = s.sink := by rw [stop_of_not_started hst]
    rw [hsame, JsonLinesSink.lost_of_isOpen fun h => h]
    refine accounts_of_given ?_ ?_ (by rw [hsame])
    · rw [hsame, List.append_nil]
    · rw [hsame]
      exact .refl _

theorem accounts_write (hopen : s.sink.isOpen = true) (r : LogRecord) :
    ∃ taken, s.Accounts { s with sink := s.sink.write r } [r] [] taken := by
  obtain ⟨taken, hleaves, hgiven, hgrows, hwritten⟩ := s.sink.write_leaves r hopen
  refine ⟨[taken], .cons hleaves .nil, ?_, ?_, hgrows, hwritten⟩
  · rw [List.flatten_singleton, ← hgiven]
  · rw [List.flatten_singleton, ← hgiven, List.append_nil]

/-- An event throws nothing away. -/
theorem Coupled.accounts_append (hs : s.Coupled) (now : Instant) (e : CapturedEvent) :
    (∃ taken, s.Accounts (s.append now e)
      (if (s.append now e).state e.framework = .started then s.normalize now e
        else none).toList [] taken) ∧
    (s.sink.isOpen = true → (s.append now e).sink.isOpen = true) := by
  cases hoff : e.isOff with
  | true =>
    rw [normalize_of_isOff hoff, ite_self, append_of_isOff hoff]
    exact ⟨⟨[], s.accounts_refl⟩, id⟩
  | false =>
    have hstart := s.accounts_start e.framework
    have hmid := hs.move (move_start s e.framework)
    by_cases hst : (s.start e.framework).state e.framework = .started
    · obtain ⟨r, hr, -⟩ := normalize_of_not_isOff (s := s) hoff now
      have hopen := hmid.opened.mpr (hmid.registrations_pos hst)
      have happend : s.append now e =
          { s.start e.framework with sink := (s.start e.framework).sink.write r } := by
        rw [append_eq_write hoff hst hr, act_write_of_started hst]
      have hstate : (s.append now e).state e.framework = .started := by
        rw [happend]
        exact hst
      obtain ⟨taken, hwrite⟩ := accounts_write hopen r
      rw [if_pos hstate, hr, happend]
      exact ⟨⟨taken, hstart.trans hwrite⟩, fun _ => (JsonLinesSink.write_frame r _).1.trans hopen⟩
    · rw [append_eq_start hoff hst, if_neg hst]
      exact ⟨⟨[], hstart⟩, s.isOpen_start _⟩

/-- Every call accounts for the record that it forwards, and throws away what is lost between the
sink before and after. -/
theorem Coupled.accounts_perform (hs : s.Coupled) (c : Call) :
    ∃ taken, s.Accounts (s.perform c) (s.forwarded? c).toList (s.sink.lost (s.perform c).sink)
      taken := by
  have happend : ∀ now (e : CapturedEvent), ∃ taken, s.Accounts (s.append now e)
      (if (s.append now e).state e.framework = .started then s.normalize now e else none).toList
      (s.sink.lost (s.append now e).sink) taken := by
    intro now e
    obtain ⟨haccounts, hopen⟩ := hs.accounts_append now e
    rw [JsonLinesSink.lost_of_isOpen hopen]
    exact haccounts
  cases c with
  | start f =>
    have hnone : s.sink.lost (s.start f).sink = [] :=
      JsonLinesSink.lost_of_isOpen (s.isOpen_start f)
    exact ⟨[], hnone ▸ s.accounts_start f⟩
  | stop f => exact ⟨[], hs.accounts_stop f⟩
  | dispatch now e => exact happend now e
  | append now e? =>
    cases e? with
    | none =>
      have hnone : s.sink.lost s.sink = [] := JsonLinesSink.lost_of_isOpen id
      exact ⟨[], hnone ▸ s.accounts_refl⟩
    | some e => exact happend now e

/-! ## Runs -/

/-- The bytes that calls throw away where they close the file, each call with how the file answers
to being opened. -/
def discarded (s : AdapterSet JsonLinesSink) : List (Option IoError × Call) → List UInt8
  | [] => []
  | (refusal, c) :: calls =>
    (s.refusing refusal).sink.lost ((s.refusing refusal).perform c).sink ++
      ((s.refusing refusal).perform c).discarded calls

theorem accounts_refusing (s : AdapterSet JsonLinesSink) (refusal : Option IoError) :
    s.Accounts (s.refusing refusal) [] [] [] := by
  obtain ⟨-, -, -, hwritten, hfile, hgiven⟩ := JsonLinesSink.refusing_frame refusal s.sink
  refine accounts_of_given ((List.append_nil _).trans hgiven) ?_ hwritten
  show s.sink.file.Grows (s.sink.refusing refusal).file
  rw [hfile]
  exact ⟨id, List.prefix_refl _⟩

theorem Coupled.accounts_run (hs : s.Coupled) (calls : List (Option IoError × Call)) :
    ∃ taken, s.Accounts (s.run calls) (s.forwarded calls) (s.discarded calls) taken := by
  induction calls generalizing s with
  | nil => exact ⟨[], s.accounts_refl⟩
  | cons call calls ih =>
    obtain ⟨refusal, c⟩ := call
    have hrefusing := s.accounts_refusing refusal
    obtain ⟨first, hfirst⟩ := (hs.refusing refusal).accounts_perform c
    obtain ⟨rest, hrest⟩ := ih ((hs.refusing refusal).perform c)
    exact ⟨first ++ rest, (hrefusing.trans hfirst).trans hrest⟩

/-! ## What the count says -/

/-- Whatever a file takes, runs of adapters keep what was in it. Of each record that is forwarded,
the line is taken or some of its text, and the sink counts the lines. What is left of all this when
the last registration has ended is in the file, in order, and the rest has been thrown away. So the
sink counts the line feeds that have reached the file and those that were thrown away, and the count
is that of the lines in the file if and only if no line feed was thrown away. -/
theorem written_accounts (config : Config) (stack : List StackFrame) (path : String)
    (file : OutputFile) (calls : List (Option IoError × Call)) :
    let start := ofConfig config stack (JsonLinesSink.ofFile path file)
    let s := start.run calls
    let reached := s.sink.finalFile.bytes.toList
    let lost := start.discarded calls
    s.sink.registrations = 0 →
    ∃ taken : List (List UInt8),
      List.Forall₂ (fun r bytes => bytes = r.line ∨ bytes <+: r.toJson.render)
        (start.forwarded calls) taken ∧
      s.sink.written = taken.countP (lineFeed ∈ ·) ∧
      file.bytes.toList <+: reached ∧
      reached.Sublist (file.bytes.toList ++ taken.flatten) ∧
      (reached ++ lost).Perm (file.bytes.toList ++ taken.flatten) ∧
      reached.count lineFeed + lost.count lineFeed =
        file.bytes.toList.count lineFeed + s.sink.written ∧
      (reached.count lineFeed = file.bytes.toList.count lineFeed + s.sink.written ↔
        lineFeed ∉ lost) := by
  intro start s reached lost hnone
  have hstart : start.Coupled := coupled_ofConfig config stack path file
  have hclosed : s.sink.isOpen = false := by
    rw [← Bool.not_eq_true, (hstart.run calls).opened, hnone]
    exact Nat.lt_irrefl 0
  have hreached : reached = s.sink.given := JsonLinesSink.bytes_finalFile_of_closed hclosed
  obtain ⟨taken, haccounts⟩ := hstart.accounts_run calls
  have hwritten : s.sink.written = taken.countP (lineFeed ∈ ·) :=
    haccounts.written.trans (Nat.zero_add _)
  have hcount : reached.count lineFeed + lost.count lineFeed =
      file.bytes.toList.count lineFeed + s.sink.written := by
    rw [hwritten, ← LogRecord.count_flatten_of_leaves haccounts.leaves, ← List.count_append,
      ← List.count_append, hreached]
    exact haccounts.complete.count_eq lineFeed
  have hgrows := haccounts.grows.trans s.sink.grows_finalFile
  refine ⟨taken, haccounts.leaves, hwritten, hgrows.begins, ?_, ?_, hcount, ?_⟩
  · rw [hreached]
    exact haccounts.ordered
  · rw [hreached]
    exact haccounts.complete
  · rw [← hcount, ← List.count_eq_zero]
    omega

/-- A file that opens and takes nothing. -/
def fullFile : OutputFile := { content := some #[], limit := fun _ => some 0 }

/-- An adapter starts, takes an event and stops. -/
def oneEvent : List (Option IoError × Call) :=
  [(none, .start .log4j),
    (none, .append (.ofNanoseconds 0) (some (.log4j { level := .info, loggerName := "app" }))),
    (none, .stop .log4j)]

theorem run_fullFile :
    let s := (ofConfig .default [] (JsonLinesSink.ofFile "/dev/full" fullFile)).run oneEvent
    s.sink.registrations = 0 ∧ s.sink.written = 1 ∧ s.sink.finalFile.bytes = #[] := by
  decide +kernel

/-- A file that takes nothing loses a line that counts. -/
theorem written_accounts_fullFile :
    let start := ofConfig .default [] (JsonLinesSink.ofFile "/dev/full" fullFile)
    let s := start.run oneEvent
    s.sink.registrations = 0 ∧ s.sink.written = 1 ∧
      s.sink.finalFile.bytes.toList.count lineFeed = 0 ∧
      (start.discarded oneEvent).count lineFeed = 1 := by
  intro start s
  obtain ⟨hnone, hwritten, hbytes⟩ := run_fullFile
  have hreached : s.sink.finalFile.bytes.toList.count lineFeed = 0 := by rw [hbytes]; rfl
  have hprior : fullFile.bytes.toList.count lineFeed = 0 := rfl
  have hcount : s.sink.finalFile.bytes.toList.count lineFeed +
      (start.discarded oneEvent).count lineFeed =
      fullFile.bytes.toList.count lineFeed + s.sink.written := by
    obtain ⟨-, -, -, -, -, -, hcount, -⟩ :=
      written_accounts .default [] "/dev/full" fullFile oneEvent hnone
    exact hcount
  rw [hreached, hprior, hwritten, Nat.zero_add] at hcount
  exact ⟨hnone, hwritten, hreached, hcount⟩

/-- What a sink counts need not reach the file. -/
theorem written_of_nothing :
    let s := (ofConfig .default [] (JsonLinesSink.ofFile "/dev/full" fullFile)).run oneEvent
    s.sink.registrations = 0 ∧ s.sink.finalFile.bytes = #[] ∧ s.sink.written ≠ 0 := by
  obtain ⟨hnone, hwritten, hbytes⟩ := run_fullFile
  exact ⟨hnone, hbytes, by rw [hwritten]; decide⟩

end AdapterSet

end LogOrigin
