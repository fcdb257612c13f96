import LogOrigin.Proofs.BufferedFile
import LogOrigin.Proofs.RecordPieces

/-!
# The sink of JSON lines, call by call

What each call does to the number of registrations, to the handles, to the file and to what the
sink has been given.
-/

namespace LogOrigin.JsonLinesSink

variable {s : JsonLinesSink}

/-- The file is open. -/
def isOpen (s : JsonLinesSink) : Bool :=
  match s.state with
  | .closed _ => false
  | .opened _ => true

/-- The file of the sink. -/
def file (s : JsonLinesSink) : OutputFile :=
  match s.state with
  | .closed file => file
  | .opened writer => writer.file

/-- All bytes that the file holds or that its writer will hand over. -/
def given (s : JsonLinesSink) : List UInt8 :=
  match s.state with
  | .closed file => file.bytes.toList
  | .opened writer => writer.given

/-- The sink has a file that takes everything. -/
def Sound (s : JsonLinesSink) : Prop :=
  match s.state with
  | .closed file => file.Takes
  | .opened writer => writer.Sound

/-- A registration was added. -/
structure Registers (s s' : JsonLinesSink) : Prop where
  isOpen : s'.isOpen = true
  registrations : s'.registrations = s.registrations + 1
  nextHandle : s'.nextHandle = s.nextHandle + 1
  written : s'.written = s.written
  sound : s.Sound → s'.Sound ∧ s'.given = s.given

theorem registers_register {writer : BufferedFile}
    (h : s.Sound → writer.Sound ∧ writer.given = s.given) :
    (s.register writer).result = .ok ⟨s.nextHandle⟩ ∧ s.Registers (s.register writer).sink :=
  ⟨rfl, rfl, rfl, rfl, rfl, h⟩

/-- A registration is granted with the next handle, unless the file is closed and refuses to open;
then nothing changes. -/
theorem start_cases (logSystem : String) (s : JsonLinesSink) :
    ((start logSystem s).result = .ok ⟨s.nextHandle⟩ ∧ s.Registers (start logSystem s).sink) ∨
      ∃ cause, s.isOpen = false ∧ s.file.refusal = some cause ∧
        start logSystem s = { sink := s, result := .error (.cannotOpen s.path cause) } := by
  cases hs : s.state with
  | opened writer =>
    left
    simp only [start, hs]
    exact registers_register fun h => by simpa [Sound, given, hs] using h
  | closed file =>
    cases hr : file.refusal with
    | some cause =>
      right
      refine ⟨cause, by simp only [isOpen, hs], by simp only [JsonLinesSink.file, hs, hr], ?_⟩
      simp only [start, hs, OutputFile.opened?, hr]
    | none =>
      left
      simp only [start, hs, OutputFile.opened?, hr]
      refine registers_register fun h => ?_
      simp only [Sound, hs] at h
      exact ⟨⟨h, rfl⟩, by simp [given, hs, BufferedFile.given, OutputFile.bytes]⟩

/-- A registration leaves the bytes alone, opening the file or not. -/
theorem bytes_start (logSystem : String) (s : JsonLinesSink) :
    (start logSystem s).sink.given = s.given ∧
      (start logSystem s).sink.file.bytes = s.file.bytes := by
  cases hs : s.state with
  | opened writer => simp only [start, hs, register, given, file, and_self]
  | closed f =>
    cases hr : f.refusal with
    | some cause => simp only [start, hs, OutputFile.opened?, hr, and_self]
    | none =>
      simp only [start, hs, OutputFile.opened?, hr, register, given, file]
      exact ⟨List.append_nil _, rfl⟩

/-- The file is there after a registration if it was before, or if that opens it. -/
theorem exists_start (logSystem : String)
    (h : s.file.Exists ∨ s.isOpen = false ∧ s.file.refusal = none) :
    (start logSystem s).sink.file.Exists := by
  cases hs : s.state with
  | opened writer =>
    simp only [file, isOpen, hs, Bool.true_eq_false, false_and, or_false] at h
    simp only [start, hs, register, file]
    exact h
  | closed f =>
    simp only [file, isOpen, hs, true_and] at h
    cases hr : f.refusal with
    | none => simp only [start, hs, OutputFile.opened?, hr, register, file]; rfl
    | some cause =>
      simp only [hr, reduceCtorEq, or_false] at h
      simp only [start, hs, OutputFile.opened?, hr, file]
      exact h

theorem written_start (logSystem : String) (s : JsonLinesSink) :
    (start logSystem s).sink.written = s.written := by
  obtain ⟨-, hregisters⟩ | ⟨cause, -, -, heq⟩ := start_cases logSystem s
  · exact hregisters.written
  · rw [heq]

/-- A file that is closed and refuses to open refuses every registration. -/
theorem start_of_refusal (logSystem : String) (hopen : s.isOpen = false) {cause : IoError}
    (hr : s.file.refusal = some cause) :
    start logSystem s = { sink := s, result := .error (.cannotOpen s.path cause) } := by
  cases hs : s.state with
  | opened writer => simp only [isOpen, hs] at hopen; cases hopen
  | closed file =>
    simp only [JsonLinesSink.file, hs] at hr
    simp only [start, hs, OutputFile.opened?, hr]

/-- The sink never stops who registers. -/
theorem stopsCaller_start (logSystem : String) (s : JsonLinesSink) :
    (start logSystem s).stopsCaller = false := by
  unfold start
  split
  · rfl
  · split <;> rfl

/-- A record leaves registrations and handles alone. -/
theorem write_frame (r : LogRecord) (s : JsonLinesSink) :
    (s.write r).isOpen = s.isOpen ∧ (s.write r).registrations = s.registrations ∧
      (s.write r).nextHandle = s.nextHandle := by
  cases hs : s.state with
  | closed file => simp [write, writePieces, hs]
  | opened writer => simp [write, writePieces, hs, isOpen]

/-- A record that arrives while the file is closed is dropped. -/
theorem writePieces_of_closed (pieces : List (List UInt8)) (hclosed : s.isOpen = false) :
    s.writePieces pieces = s := by
  cases hs : s.state with
  | closed file => simp only [writePieces, hs]
  | opened writer => simp only [isOpen, hs] at hclosed; cases hclosed

theorem write_of_closed (r : LogRecord) (hclosed : s.isOpen = false) : s.write r = s :=
  writePieces_of_closed r.pieces hclosed

/-- A record adds its line, if the file is open and takes it. -/
theorem write_line (r : LogRecord) (h : s.Sound) (hopen : s.isOpen = true) :
    (s.write r).given = s.given ++ r.line ∧ (s.write r).written = s.written + 1 ∧
      (s.write r).Sound := by
  cases hs : s.state with
  | closed file => simp [isOpen, hs] at hopen
  | opened writer =>
    simp only [Sound, hs] at h
    have hadds := BufferedFile.adds_writeAll h (r.pieces ++ [[Json.Byte.lineFeed]])
    have hline : (r.pieces ++ [[Json.Byte.lineFeed]]).flatten = r.line := r.chopping.flatten_line
    rw [hline] at hadds
    simp only [write, writePieces, hs, given, Sound, hadds.done, if_true]
    exact ⟨hadds.given, trivial, hadds.sound⟩

/-- The end of a registration closes the file if it was the last one. -/
theorem shutdown_frame (s : JsonLinesSink) :
    s.shutdown.registrations = s.registrations - 1 ∧ s.shutdown.nextHandle = s.nextHandle ∧
      s.shutdown.written = s.written ∧
      (s.shutdown.isOpen = true ↔ s.isOpen = true ∧ 0 < s.registrations - 1) := by
  by_cases hlast : s.registrations - 1 = 0
  · cases hs : s.state <;> simp [shutdown, hlast, close, hs, isOpen]
  · have hpos : 0 < s.registrations - 1 := Nat.pos_of_ne_zero hlast
    simp [shutdown, hlast, isOpen, hpos]

/-- Closing the file loses nothing. -/
theorem close_given (h : s.Sound) : s.close.given = s.given ∧ s.close.Sound := by
  cases hs : s.state with
  | closed file => simpa [close, hs, Sound] using h
  | opened writer =>
    simp only [Sound, hs] at h
    have hfirst := (BufferedFile.adds_flush h).1
    have hsecond := (BufferedFile.adds_flush hfirst.sound).1
    simp only [close, hs, given, Sound]
    refine ⟨?_, hsecond.sound.takes⟩
    rw [BufferedFile.bytes_close hfirst.sound, hfirst.given, List.append_nil]

theorem shutdown_given (h : s.Sound) : s.shutdown.given = s.given ∧ s.shutdown.Sound := by
  simp only [shutdown]
  split
  · exact close_given (s := { s with registrations := s.registrations - 1 }) h
  · exact ⟨rfl, h⟩

/-- The file that is left holds all that the sink was given. -/
theorem bytes_finalFile (h : s.Sound) : s.finalFile.bytes.toList = s.given := by
  cases hs : s.state with
  | closed file => simp only [finalFile, hs, given]
  | opened writer =>
    simp only [Sound, hs] at h
    simp only [finalFile, hs, given]
    exact BufferedFile.bytes_close h

/-! ## The file is there -/

/-- A file that is open is there. -/
theorem exists_of_isOpen (h : s.Sound) (hopen : s.isOpen = true) : s.file.Exists := by
  cases hs : s.state with
  | closed file => simp [isOpen, hs] at hopen
  | opened writer =>
    simp only [Sound, hs] at h
    simp only [file, hs]
    exact h.there

/-- Closing a file does not remove it. -/
theorem exists_shutdown (h : s.Sound) (hfile : s.file.Exists) : s.shutdown.file.Exists := by
  by_cases hlast : s.registrations - 1 = 0
  · cases hs : s.state with
    | closed f =>
      simp only [file, hs] at hfile
      simp only [shutdown, hlast, if_true, close, hs, file]
      exact hfile
    | opened writer =>
      simp only [Sound, hs] at h
      have hfirst := (BufferedFile.adds_flush h).1
      have hsecond := (BufferedFile.adds_flush hfirst.sound).1
      simp only [shutdown, hlast, if_true, close, hs, file]
      exact hsecond.sound.there
  · simp only [shutdown, hlast, if_false, file]
    exact hfile

theorem exists_finalFile (h : s.Sound) (hfile : s.file.Exists) : s.finalFile.Exists := by
  cases hs : s.state with
  | closed f =>
    simp only [file, hs] at hfile
    simp only [finalFile, hs]
    exact hfile
  | opened writer =>
    simp only [Sound, hs] at h
    simp only [finalFile, hs]
    exact (BufferedFile.adds_flush h).1.sound.there

/-! ## Opening -/

/-- From now on, the file refuses to open with this cause, or opens. -/
def refusing (refusal : Option IoError) (s : JsonLinesSink) : JsonLinesSink :=
  match s.state with
  | .closed file => { s with state := .closed { file with refusal } }
  | .opened writer => { s with state := .opened { writer with file := { writer.file with refusal } } }

/-- Whether the file opens is all that changes. -/
theorem refusing_frame (refusal : Option IoError) (s : JsonLinesSink) :
    (s.refusing refusal).isOpen = s.isOpen ∧
      (s.refusing refusal).registrations = s.registrations ∧
      (s.refusing refusal).nextHandle = s.nextHandle ∧
      (s.refusing refusal).written = s.written ∧
      (s.refusing refusal).file = { s.file with refusal } ∧
      (s.refusing refusal).given = s.given := by
  cases hs : s.state <;> simp only [refusing, hs, isOpen, file, given] <;>
    exact ⟨trivial, trivial, trivial, trivial, trivial, rfl⟩

theorem sound_refusing (refusal : Option IoError) (h : s.Sound) : (s.refusing refusal).Sound := by
  cases hs : s.state with
  | closed file =>
    simp only [Sound, hs] at h
    simp only [refusing, hs, Sound]
    exact h
  | opened writer =>
    simp only [Sound, hs] at h
    simp only [refusing, hs, Sound]
    exact ⟨h.takes, h.there⟩

/-! ## Whether the file opens stays as it is -/

theorem refusal_start (logSystem : String) (s : JsonLinesSink) :
    (start logSystem s).sink.file.refusal = s.file.refusal := by
  cases hs : s.state with
  | opened writer => simp only [start, hs, register, file]
  | closed f =>
    cases hr : f.refusal with
    | some cause => simp only [start, hs, OutputFile.opened?, hr]
    | none => simp only [start, hs, OutputFile.opened?, hr, register, file]

theorem refusal_write (r : LogRecord) (h : s.Sound) :
    (s.write r).file.refusal = s.file.refusal := by
  cases hs : s.state with
  | closed f => simp only [write, writePieces, hs]
  | opened writer =>
    simp only [Sound, hs] at h
    simp only [write, writePieces, hs, file]
    exact (BufferedFile.adds_writeAll h _).refusal

theorem refusal_shutdown (h : s.Sound) : s.shutdown.file.refusal = s.file.refusal := by
  by_cases hlast : s.registrations - 1 = 0
  · cases hs : s.state with
    | closed f => simp only [shutdown, hlast, if_true, close, hs, file]
    | opened writer =>
      simp only [Sound, hs] at h
      have hfirst := (BufferedFile.adds_flush h).1
      have hsecond := (BufferedFile.adds_flush hfirst.sound).1
      simp only [shutdown, hlast, if_true, close, hs, file]
      exact hsecond.refusal.trans hfirst.refusal
  · simp only [shutdown, hlast, if_false, file]

end LogOrigin.JsonLinesSink
