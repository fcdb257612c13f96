import LogOrigin.Log4j2

/-!
# log4j2 events in JSON

Events are read and written with the key spelling of the framework; the frames and throwables inside
them are written as records show them.
-/

namespace LogOrigin.Log4j2

namespace Level

/-- A level of the application's own whose fields are being read. -/
structure Draft where
  name : Option String := none
  intLevel : Option Nat := none

/-- How a level of the application's own is read. -/
def customRecord : Decode.Record Draft Level where
  phrase := "struct variant Log4j2Level::Custom"
  fields := [
    Decode.field "name" (·.name) (fun d v => { d with name := v }) Decode.text false,
    Decode.field "int_level" (·.intLevel) (fun d v => { d with intLevel := v }) Decode.unsigned32
      false]
  blank := {}
  finish d := do
    let name ← Decode.necessary "name" d.name
    let intLevel ← Decode.necessary "int_level" d.intLevel
    return custom name intLevel

/-- Levels by their names. -/
def variants : Decode.Variants Level where
  plain := [off, fatal, error, warn, info, debug, trace, all].map fun l => (l.name, l)
  custom := some ("CUSTOM", Decode.record customRecord.phrase fun _ => customRecord)

/-- Reads a level. -/
def decode : Decode.DeepDecoder Level := variants.decode

/-- A level by its name, or with its fields. -/
def toJson : Level → Json.Value
  | custom name intLevel =>
    .object [("CUSTOM", .object [("name", .text name), ("int_level", .natural intLevel)])]
  | l => .text l.name

end Level

namespace Event

/-- An event whose fields are being read. -/
structure Draft where
  instant : Option (Option Instant) := none
  level : Option Level := none
  loggerName : Option String := none
  message : Option String := none
  threadName : Option (Option String) := none
  threadId : Option (Option Nat) := none
  thrown : Option (Option Throwable) := none
  source : Option (Option StackFrame) := none
  contextData : Option Properties := none

/-- How an event is read, with so much depth left inside. -/
def record (depth : Nat) : Decode.Record Draft Event where
  phrase := "struct Log4jLogEvent"
  fields := [
    Decode.field "instant" (·.instant) (fun d v => { d with instant := v })
      (Decode.nullable Decode.instant),
    Decode.field "level" (·.level) (fun d v => { d with level := v }) (Level.decode depth) false,
    Decode.field "loggerName" (·.loggerName) (fun d v => { d with loggerName := v }) Decode.text,
    Decode.field "message" (·.message) (fun d v => { d with message := v }) Decode.text,
    Decode.field "threadName" (·.threadName) (fun d v => { d with threadName := v })
      (Decode.nullable Decode.text),
    Decode.field "threadId" (·.threadId) (fun d v => { d with threadId := v })
      (Decode.nullable Decode.unsigned64),
    Decode.field "thrown" (·.thrown) (fun d v => { d with thrown := v })
      (Decode.nullable (Throwable.decode depth)),
    Decode.field "source" (·.source) (fun d v => { d with source := v })
      (Decode.nullable (StackFrame.decode depth)),
    Decode.field "contextData" (·.contextData) (fun d v => { d with contextData := v })
      (Properties.decode depth)]
  blank := {}
  finish d := do
    let level ← Decode.necessary "level" d.level
    return {
      instant := d.instant.join
      level
      loggerName := d.loggerName.getD ""
      message := d.message.getD ""
      threadName := d.threadName.join
      threadId := d.threadId.join
      thrown := d.thrown.join
      source := d.source.join
      contextData := d.contextData.getD .empty }

/-- Reads an event. -/
def decode : Decode.DeepDecoder Event :=
  Decode.record "struct Log4jLogEvent" record

/-- An event as an object. -/
def toJson (e : Event) : Json.Value :=
  .object [
    ("instant", .optional (fun t => .text t.text) e.instant),
    ("level", e.level.toJson),
    ("loggerName", .text e.loggerName),
    ("message", .text e.message),
    ("threadName", .optional .text e.threadName),
    ("threadId", .optional .natural e.threadId),
    ("thrown", .optional Throwable.toJson e.thrown),
    ("source", .optional StackFrame.toJson e.source),
    ("contextData", e.contextData.toJson)]

end Event

end LogOrigin.Log4j2
