import LogOrigin.Instant
import LogOrigin.Json.Printer
import LogOrigin.Properties
import LogOrigin.Severity
import LogOrigin.SourceLocation
import LogOrigin.Throwable.Json

/-!
# Records

What every event becomes, whichever framework it came from.
-/

namespace LogOrigin

/-- The thread that logged an event. -/
structure ThreadInfo where
  name : Option String
  id : Option Nat
  deriving DecidableEq, Repr

namespace ThreadInfo

/-- A thread of which at least one thing is known. -/
def of? (name : Option String) (id : Option Nat) : Option ThreadInfo :=
  if name.isNone && id.isNone then none else some ⟨name, id⟩

/-- A thread whose fields are being read. -/
structure Draft where
  name : Option (Option String) := none
  id : Option (Option Nat) := none

/-- How a thread is read. -/
def record : Decode.Record Draft ThreadInfo where
  phrase := "struct ThreadInfo"
  fields := [
    Decode.field "name" (·.name) (fun d v => { d with name := v }) (Decode.nullable Decode.text)
      false,
    Decode.field "id" (·.id) (fun d v => { d with id := v }) (Decode.nullable Decode.unsigned64)
      false]
  blank := {}
  finish d := return ⟨d.name.join, d.id.join⟩

/-- Reads a thread. -/
def decode : Decode.DeepDecoder ThreadInfo :=
  Decode.record record.phrase fun _ => record

/-- A thread as a record shows it. -/
def toJson (t : ThreadInfo) : Json.Value :=
  .object [("name", .optional .text t.name), ("id", .optional .natural t.id)]

end ThreadInfo

/-- An event on common terms. -/
structure LogRecord where
  timestamp : Instant
  severity : Severity
  sourceLocation : SourceLocation
  /-- The tag of the framework. -/
  logSystem : String
  loggerName : String
  message : String
  throwable : Option Throwable
  threadInfo : Option ThreadInfo
  properties : Properties

namespace LogRecord

/-- The members of a record behind its time, in their order. -/
def membersBehindTime (r : LogRecord) : List (String × Json.Value) := [
  ("severity", r.severity.toJson),
  ("source_location", r.sourceLocation.toJson),
  ("log_system", .text r.logSystem),
  ("logger_name", .text r.loggerName),
  ("message", .text r.message),
  ("throwable", .optional Throwable.toJson r.throwable),
  ("thread_info", .optional ThreadInfo.toJson r.threadInfo),
  ("properties", r.properties.toJson)]

/-- A record as an object, its fields in their order. -/
def toJson (r : LogRecord) : Json.Value :=
  .object (("timestamp", .text r.timestamp.text) :: r.membersBehindTime)

/-- The pieces of the compact text of a record. The time comes in the parts in which it is
written. -/
def pieces (r : LogRecord) : List (List UInt8) :=
  [Json.Byte.openBrace] :: Json.textPieces "timestamp" ++
    [Json.Byte.colon] :: Json.partPieces r.timestamp.parts ++
    Json.Value.memberPieces false r.membersBehindTime ++ [[Json.Byte.closeBrace]]

end LogRecord

end LogOrigin
