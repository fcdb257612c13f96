import LogOrigin.Log4j

/-!
# log4j events in JSON

Events are read and written with the key spelling of the framework; the frames and throwables inside
them are written as records show them.
-/

namespace LogOrigin.Log4j

namespace Level

/-- A level of the application's own whose fields are being read. -/
structure Draft where
  name : Option String := none
  value : Option Int := none

/-- How a level of the application's own is read. -/
def customRecord : Decode.Record Draft Level where
  phrase := "struct variant Log4jLevel::Custom"
  fields := [
    Decode.field "name" (·.name) (fun d v => { d with name := v }) Decode.text false,
    Decode.field "value" (·.value) (fun d v => { d with value := v }) Decode.signed32 false]
  blank := {}
  finish d := do
    let name ← Decode.necessary "name" d.name
    let value ← Decode.necessary "value" d.value
    return custom name value

/-- Levels by their names. -/
def variants : Decode.Variants Level where
  plain := [("OFF", off), ("FATAL", fatal), ("ERROR", error), ("WARN", warn), ("INFO", info),
    ("DEBUG", debug), ("TRACE", trace), ("ALL", all)]
  custom := some ("CUSTOM", Decode.record customRecord.phrase fun _ => customRecord)

/-- Reads a level. -/
def decode : Decode.DeepDecoder Level := variants.decode

/-- A level by its name, or with its fields. -/
def toJson : Level → Json.Value
  | off => .text "OFF"
  | fatal => .text "FATAL"
  | error => .text "ERROR"
  | warn => .text "WARN"
  | info => .text "INFO"
  | debug => .text "DEBUG"
  | trace => .text "TRACE"
  | all => .text "ALL"
  | custom name value =>
    .object [("CUSTOM", .object [("name", .text name), ("value", .number (.integer value))])]

end Level

namespace LocationInfo

/-- A call site whose fields are being read. -/
structure Draft where
  className : Option (Option String) := none
  methodName : Option (Option String) := none
  fileName : Option (Option String) := none
  lineNumber : Option (Option String) := none

/-- How a call site is read. -/
def record : Decode.Record Draft LocationInfo where
  phrase := "struct LocationInfo"
  fields := [
    Decode.field "className" (·.className) (fun d v => { d with className := v })
      (Decode.nullable Decode.text),
    Decode.field "methodName" (·.methodName) (fun d v => { d with methodName := v })
      (Decode.nullable Decode.text),
    Decode.field "fileName" (·.fileName) (fun d v => { d with fileName := v })
      (Decode.nullable Decode.text),
    Decode.field "lineNumber" (·.lineNumber) (fun d v => { d with lineNumber := v })
      (Decode.nullable Decode.text)]
  blank := {}
  finish d :=
    return ⟨d.className.join, d.methodName.join, d.fileName.join, d.lineNumber.join⟩

/-- Reads a call site. -/
def decode : Decode.DeepDecoder LocationInfo :=
  Decode.record record.phrase fun _ => record

/-- A call site as an object. -/
def toJson (info : LocationInfo) : Json.Value :=
  .object [
    ("className", .optional .text info.className),
    ("methodName", .optional .text info.methodName),
    ("fileName", .optional .text info.fileName),
    ("lineNumber", .optional .text info.lineNumber)]

end LocationInfo

namespace Event

/-- An event whose fields are being read. -/
structure Draft where
  timestamp : Option (Option Instant) := none
  level : Option Level := none
  loggerName : Option String := none
  message : Option String := none
  threadName : Option (Option String) := none
  throwable : Option (Option Throwable) := none
  throwableLines : Option (Option (List String)) := none
  locationInfo : Option (Option LocationInfo) := none
  properties : Option Properties := none

/-- How an event is read, with so much depth left inside. -/
def record (depth : Nat) : Decode.Record Draft Event where
  phrase := "struct LoggingEvent"
  fields := [
    Decode.field "timestamp" (·.timestamp) (fun d v => { d with timestamp := v })
      (Decode.nullable Decode.instant),
    Decode.field "level" (·.level) (fun d v => { d with level := v }) (Level.decode depth) false,
    Decode.field "loggerName" (·.loggerName) (fun d v => { d with loggerName := v }) Decode.text
      false,
    Decode.field "message" (·.message) (fun d v => { d with message := v }) Decode.text,
    Decode.field "threadName" (·.threadName) (fun d v => { d with threadName := v })
      (Decode.nullable Decode.text),
    Decode.field "throwable" (·.throwable) (fun d v => { d with throwable := v })
      (Decode.nullable (Throwable.decode depth)),
    Decode.field "throwableStrRep" (·.throwableLines) (fun d v => { d with throwableLines := v })
      (Decode.nullable (Decode.list (fun _ => Decode.text) depth)),
    Decode.field "locationInfo" (·.locationInfo) (fun d v => { d with locationInfo := v })
      (Decode.nullable (LocationInfo.decode depth)),
    Decode.field "properties" (·.properties) (fun d v => { d with properties := v })
      (Properties.decode depth)]
  blank := {}
  finish d := do
    let level ← Decode.necessary "level" d.level
    let loggerName ← Decode.necessary "loggerName" d.loggerName
    return {
      timestamp := d.timestamp.join
      level
      loggerName
      message := d.message.getD ""
      threadName := d.threadName.join
      throwable := d.throwable.join
      throwableLines := d.throwableLines.join
      locationInfo := d.locationInfo.join
      properties := d.properties.getD .empty }

/-- Reads an event. -/
def decode : Decode.DeepDecoder Event :=
  Decode.record "struct LoggingEvent" record

/-- An event as an object. -/
def toJson (e : Event) : Json.Value :=
  .object [
    ("timestamp", .optional (fun t => .text t.text) e.timestamp),
    ("level", e.level.toJson),
    ("loggerName", .text e.loggerName),
    ("message", .text e.message),
    ("threadName", .optional .text e.threadName),
    ("throwable", .optional Throwable.toJson e.throwable),
    ("throwableStrRep", .optional (fun lines => .list (lines.map .text)) e.throwableLines),
    ("locationInfo", .optional LocationInfo.toJson e.locationInfo),
    ("properties", e.properties.toJson)]

end Event

end LogOrigin.Log4j
