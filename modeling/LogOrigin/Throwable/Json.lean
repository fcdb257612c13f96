import LogOrigin.StackFrame.Json
import LogOrigin.Throwable

/-!
# Throwables in JSON

A throwable is read with the key spelling of the frameworks and written with that of the records.
-/

namespace LogOrigin.Throwable

/-- A throwable whose fields are being read. -/
structure Draft where
  typeName : Option String := none
  message : Option (Option String) := none
  frames : Option (List StackFrame) := none
  cause : Option (Option Throwable) := none

/-- How a throwable is read, given how its cause is. -/
def record (depth : Nat) (cause : Decode.Decoder Throwable) : Decode.Record Draft Throwable where
  phrase := "struct Throwable"
  fields := [
    Decode.field "typeName" (·.typeName) (fun d v => { d with typeName := v }) Decode.text false,
    Decode.field "message" (·.message) (fun d v => { d with message := v })
      (Decode.nullable Decode.text),
    Decode.field "frames" (·.frames) (fun d v => { d with frames := v })
      (Decode.list StackFrame.decode depth),
    Decode.field "cause" (·.cause) (fun d v => { d with cause := v }) (Decode.nullable cause)]
  blank := {}
  finish d := do
    let typeName ← Decode.necessary "typeName" d.typeName
    return mk typeName d.message.join (d.frames.getD []) d.cause.join

/-- Reads a throwable. -/
def decode : Decode.DeepDecoder Throwable
  | 0 => Decode.tooDeep "struct Throwable"
  | depth + 1 => (record depth (decode depth)).decode

/-- A throwable as a record shows it. -/
def toJson : Throwable → Json.Value
  | mk typeName message frames cause =>
    .object [
      ("type_name", .text typeName),
      ("message", .optional .text message),
      ("frames", .list (frames.map StackFrame.toJson)),
      ("cause", match cause with
        | none => .null
        | some c => c.toJson)]

end LogOrigin.Throwable
