import LogOrigin.AdapterSet
import LogOrigin.Replay.Source
import LogOrigin.Sink.JsonLines

/-!
# Replay

A replay feeds the captured events of an input, one a line, through the adapters. Blank lines are
passed over; lines that are too long or hold no captured event are counted, the first of them are
reported, and the replay goes on. It ends early only if the input cannot be read.
-/

namespace LogOrigin

namespace Line

/-- A blank byte. -/
def isBlankByte (b : UInt8) : Bool :=
  b == 0x20 || b == 0x09 || b == 0x0A || b == 0x0C || b == 0x0D

/-- A line of blanks that is not too long. -/
def isBlank (l : Line) : Bool := l.length ≤ Limits.lineBytes && l.kept.all isBlankByte

/-- The captured event that a line holds. -/
def event (l : Line) : Except LineError CapturedEvent :=
  if Limits.lineBytes < l.length then .error (.tooLong l.length Limits.lineBytes)
  else (CapturedEvent.ofLine l.kept).mapError .malformed

end Line

namespace Replay

/-- What a replay has done. -/
structure Summary where
  /-- Lines that are not blank. -/
  lines : Nat := 0
  /-- Events handed to an adapter. -/
  dispatched : Nat := 0
  malformed : Nat := 0
  /-- The first malformed lines. -/
  errors : List SkippedLine := []
  deriving DecidableEq, Repr

namespace Summary

/-- Counts an event. -/
def dispatch (s : Summary) : Summary :=
  { s with lines := s.lines + 1, dispatched := s.dispatched + 1 }

/-- Counts a malformed line, and reports it if it is one of the first. -/
def skip (s : Summary) (l : SkippedLine) : Summary :=
  { s with
    lines := s.lines + 1
    malformed := s.malformed + 1
    errors := if s.errors.length < Limits.reportedErrors then s.errors ++ [l] else s.errors }

/-- How many malformed lines are not reported. -/
def unreported (s : Summary) : Nat := s.malformed - s.errors.length

end Summary

/-- A replay under way over adapters on a sink with states of type `σ`. -/
structure Progress (σ : Type) where
  /-- How many lines have been read, blank ones included. -/
  lineNumber : Nat := 0
  summary : Summary := {}
  adapters : AdapterSet σ

variable {σ : Type} [Sink σ]

/-- Takes the next line; `clock` gives the time at which a line is taken. -/
def step (clock : Nat → Instant) (p : Progress σ) (l : Line) : Progress σ :=
  let number := p.lineNumber + 1
  if l.isBlank then { p with lineNumber := number }
  else
    match l.event with
    | .ok e => ⟨number, p.summary.dispatch, p.adapters.append (clock number) e⟩
    | .error cause => ⟨number, p.summary.skip ⟨number, cause⟩, p.adapters⟩

/-- Replays an input through adapters: the progress at its end or where reading failed, and why it
failed if it did. -/
def run (clock : Nat → Instant) (input : Source) (adapters : AdapterSet σ) :
    Progress σ × Option IoError :=
  let (lines, failure) := Line.readAll Limits.lineBytes input
  (lines.foldl (step clock) { adapters }, failure)

/-- What a replay of a file reports. -/
structure Report where
  summary : Summary
  /-- How many records the output was given. -/
  written : Nat
  deriving DecidableEq, Repr

/-- A file by its path: as an input that may not open, or as an output. -/
structure Named (α : Type) where
  path : String
  file : α

/-- Replays an input file into an output file that records are appended to, with no call stack to
fall back on. Gives the report and the output file afterwards. The input is opened first, and
nothing is read unless the output opens. -/
def runFile (clock : Nat → Instant) (config : Config) (input : Named (Except IoError Source))
    (output : Named OutputFile) : Except ReplayError Report × OutputFile :=
  match input.file with
  | .error cause => (.error (.unreadable input.path cause), output.file)
  | .ok source =>
    let adapters := AdapterSet.ofConfig config [] (JsonLinesSink.ofFile output.path output.file)
    let adapters := adapters.startAll
    if adapters.allStarted then
      let (progress, failure) := run clock source adapters
      let sink := progress.adapters.stopAll.sink
      match failure with
      | some cause => (.error (.unreadable input.path cause), sink.finalFile)
      | none => (.ok ⟨progress.summary, sink.written⟩, sink.finalFile)
    else (.error (.outputUnavailable output.path), adapters.stopAll.sink.finalFile)

end Replay

end LogOrigin
