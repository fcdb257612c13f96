import LogOrigin.Sink
import LogOrigin.Sink.BufferedFile

/-!
# Records as lines of a file

A sink that appends one line of JSON for each record. Several log systems may share it: the file is
opened by the first registration and closed when the last one ends. Records that arrive while it is
closed are dropped.
-/

namespace LogOrigin

/-- The line of a record. -/
def LogRecord.line (r : LogRecord) : List UInt8 := r.toJson.render ++ [Json.Byte.lineFeed]

/-- The file of a sink, between uses or in use. -/
inductive FileState where
  | closed (file : OutputFile)
  | opened (writer : BufferedFile)

/-- A sink that writes lines to a file. -/
structure JsonLinesSink where
  path : String
  state : FileState
  /-- How many registrations there are. -/
  registrations : Nat := 0
  /-- The next handle. -/
  nextHandle : Nat := 1
  /-- How many records have been written, if only to the buffer. -/
  written : Nat := 0

namespace JsonLinesSink

/-- A sink for the file at a path. -/
def ofFile (path : String) (file : OutputFile) : JsonLinesSink := { path, state := .closed file }

/-- Adds a registration to a sink whose file is open. -/
def register (s : JsonLinesSink) (writer : BufferedFile) : Attempt JsonLinesSink where
  sink := { s with
    state := .opened writer
    registrations := s.registrations + 1
    nextHandle := s.nextHandle + 1 }
  result := .ok ⟨s.nextHandle⟩

/-- Registers a log system, opening the file if it is closed. -/
def start (_logSystem : String) (s : JsonLinesSink) : Attempt JsonLinesSink :=
  match s.state with
  | .opened writer => s.register writer
  | .closed file =>
    match file.opened? with
    | .ok file => s.register { file }
    | .error cause => { sink := s, result := .error (.cannotOpen s.path cause) }

/-- Writes the text of a record in pieces, and a line feed, if the file is open; the record counts
if nothing of its line failed. -/
def writePieces (pieces : List (List UInt8)) (s : JsonLinesSink) : JsonLinesSink :=
  match s.state with
  | .closed _ => s
  | .opened writer =>
    let (writer, done) := writer.writeAll (pieces ++ [[Json.Byte.lineFeed]])
    { s with state := .opened writer, written := if done then s.written + 1 else s.written }

/-- Writes the line of a record. -/
def write (r : LogRecord) (s : JsonLinesSink) : JsonLinesSink := s.writePieces r.pieces

/-- Closes the file. What could not be handed over at first is tried once more. -/
def close (s : JsonLinesSink) : JsonLinesSink :=
  match s.state with
  | .closed _ => s
  | .opened writer => { s with state := .closed writer.flush.1.close }

/-- Ends a registration, and closes the file after the last one. -/
def shutdown (s : JsonLinesSink) : JsonLinesSink :=
  let s := { s with registrations := s.registrations - 1 }
  if s.registrations = 0 then s.close else s

/-- The file after the sink is gone: what is pending then gets a last chance. -/
def finalFile (s : JsonLinesSink) : OutputFile :=
  match s.state with
  | .closed file => file
  | .opened writer => writer.close

instance : Sink JsonLinesSink where
  start := start
  write _ r s := s.write r
  shutdown _ s := s.shutdown

end JsonLinesSink

end LogOrigin
