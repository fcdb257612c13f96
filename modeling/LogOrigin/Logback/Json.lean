import LogOrigin.Logback

/-!
# logback events in JSON

Events are read and written with the key spelling of the framework; the frames and throwables inside
them are written as records show them.
-/

namespace LogOrigin.Logback

namespace Level

/-- A level that a bridge reports whose fields are being read. -/
structure Draft where
  name : Option String := none
  value : Option Int := none

/-- How a level that a bridge reports is read. -/
def customRecord : Decode.Record Draft Level where
  phrase := "struct variant LogbackLevel::Custom"
  fields := [
    Decode.field "name" (·.name) (fun d v => { d with name := v }) Decode.text false,
    Decode.field "value" (·.value) (fun d v => { d with value := v }) Decode.signed32 false]
  blank := {}
  finish d := do
    let name ← Decode.necessary "name" d.name
    let value ← Decode.necessary "value" d.value
    return custom name value

/-- Levels by their names. -/
def variants : Decode.Variants Level where
  plain := [("OFF", off), ("ERROR", error), ("WARN", warn), ("INFO", info), ("DEBUG", debug),
    ("TRACE", trace), ("ALL", all)]
  custom := some ("CUSTOM", Decode.record customRecord.phrase fun _ => customRecord)

/-- Reads a level. -/
def decode : Decode.DeepDecoder Level := variants.decode

/-- A level by its name, or with its fields. -/
def toJson : Level → Json.Value
  | off => .text "OFF"
  | error => .text "ERROR"
  | warn => .text "WARN"
  | info => .text "INFO"
  | debug => .text "DEBUG"
  | trace => .text "TRACE"
  | all => .text "ALL"
  | custom name value =>
    .object [("CUSTOM", .object [("name", .text name), ("value", .number (.integer value))])]

end Level

namespace Event

/-- An event whose fields are being read. -/
structure Draft where
  timestamp : Option (Option Instant) := none
  level : Option Level := none
  loggerName : Option String := none
  formattedMessage : Option String := none
  threadName : Option (Option String) := none
  throwableProxy : Option (Option Throwable) := none
  callerData : Option (List StackFrame) := none
  markers : Option (List String) := none
  mdc : Option Properties := none

/-- How an event is read, with so much depth left inside. -/
def record (depth : Nat) : Decode.Record Draft Event where
  phrase := "struct LoggingEvent"
  fields := [
    Decode.field "timestamp" (·.timestamp) (fun d v => { d with timestamp := v })
      (Decode.nullable Decode.instant),
    Decode.field "level" (·.level) (fun d v => { d with level := v }) (Level.decode depth) false,
    Decode.field "loggerName" (·.loggerName) (fun d v => { d with loggerName := v }) Decode.text
      false,
    Decode.field "formattedMessage" (·.formattedMessage)
      (fun d v => { d with formattedMessage := v }) Decode.text,
    Decode.field "threadName" (·.threadName) (fun d v => { d with threadName := v })
      (Decode.nullable Decode.text),
    Decode.field "throwableProxy" (·.throwableProxy) (fun d v => { d with throwableProxy := v })
      (Decode.nullable (Throwable.decode depth)),
    Decode.field "callerData" (·.callerData) (fun d v => { d with callerData := v })
      (Decode.list StackFrame.decode depth),
    Decode.field "markers" (·.markers) (fun d v => { d with markers := v })
      (Decode.list (fun _ => Decode.text) depth),
    Decode.field "mdc" (·.mdc) (fun d v => { d with mdc := v }) (Properties.decode depth)]
  blank := {}
  finish d := do
    let level ← Decode.necessary "level" d.level
    let loggerName ← Decode.necessary "loggerName" d.loggerName
    return {
      timestamp := d.timestamp.join
      level
      loggerName
      formattedMessage := d.formattedMessage.getD ""
      threadName := d.threadName.join
      throwableProxy := d.throwableProxy.join
      callerData := d.callerData.getD []
      markers := d.markers.getD []
      mdc := d.mdc.getD .empty }

/-- Reads an event. -/
def decode : Decode.DeepDecoder Event :=
  Decode.record "struct LoggingEvent" record

/-- An event as an object. -/
def toJson (e : Event) : Json.Value :=
  .object [
    ("timestamp", .optional (fun t => .text t.text) e.timestamp),
    ("level", e.level.toJson),
    ("loggerName", .text e.loggerName),
    ("formattedMessage", .text e.formattedMessage),
    ("threadName", .optional .text e.threadName),
    ("throwableProxy", .optional Throwable.toJson e.throwableProxy),
    ("callerData", .list (e.callerData.map StackFrame.toJson)),
    ("markers", .list (e.markers.map .text)),
    ("mdc", e.mdc.toJson)]

end Event

end LogOrigin.Logback
