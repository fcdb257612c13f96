import LogOrigin.Decode.Record
import LogOrigin.StackFrame

/-!
# Frames in JSON

A frame is read with the key spelling of the frameworks and written with that of the records.
-/

namespace LogOrigin.StackFrame

/-- A frame whose fields are being read. -/
structure Draft where
  className : Option String := none
  methodName : Option String := none
  fileName : Option (Option String) := none
  lineNumber : Option Nat := none

/-- How a frame is read. -/
def record : Decode.Record Draft StackFrame where
  phrase := "struct StackFrame"
  fields := [
    Decode.field "className" (·.className) (fun d v => { d with className := v }) Decode.text false,
    Decode.field "methodName" (·.methodName) (fun d v => { d with methodName := v }) Decode.text
      false,
    Decode.field "fileName" (·.fileName) (fun d v => { d with fileName := v })
      (Decode.nullable Decode.text),
    Decode.field "lineNumber" (·.lineNumber) (fun d v => { d with lineNumber := v })
      Decode.unsigned32]
  blank := {}
  finish d := do
    let className ← Decode.necessary "className" d.className
    let methodName ← Decode.necessary "methodName" d.methodName
    return { className, methodName, fileName := d.fileName.join, lineNumber := d.lineNumber.getD 0 }

/-- Reads a frame. -/
def decode : Decode.DeepDecoder StackFrame :=
  Decode.record record.phrase fun _ => record

/-- A frame as a record shows it. -/
def toJson (frame : StackFrame) : Json.Value :=
  .object [
    ("class_name", .text frame.className),
    ("method_name", .text frame.methodName),
    ("file_name", .optional .text frame.fileName),
    ("line_number", .natural frame.lineNumber)]

end LogOrigin.StackFrame
