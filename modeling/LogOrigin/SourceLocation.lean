import LogOrigin.Json.Value
import LogOrigin.StackFrame

/-!
# Source locations

Where an event came from. Each part may be unknown; an empty text is an unknown one, and so is
line 0.
-/

namespace LogOrigin

/-- A place in the source. -/
structure SourceLocation where
  methodName : Option String := none
  className : Option String := none
  fileName : Option String := none
  lineNumber : Nat := 0
  deriving DecidableEq, Repr

namespace SourceLocation

/-- The location of which nothing is known. -/
def unknown : SourceLocation := {}

/-- A text, unless it is empty. -/
def nonEmpty (s : Option String) : Option String := s.filter (· ≠ "")

/-- A location from its parts. -/
def of (methodName className fileName : Option String) (lineNumber : Nat) : SourceLocation :=
  ⟨nonEmpty methodName, nonEmpty className, nonEmpty fileName, lineNumber⟩

/-- The location of a frame. -/
def ofFrame (frame : StackFrame) : SourceLocation :=
  of frame.methodName frame.className frame.fileName frame.lineNumber

/-- Nothing is known of the location. -/
def isUnknown (l : SourceLocation) : Bool := l == unknown

/-- A location as a record shows it. -/
def toJson (l : SourceLocation) : Json.Value :=
  .object [
    ("method_name", .optional .text l.methodName),
    ("class_name", .optional .text l.className),
    ("file_name", .optional .text l.fileName),
    ("line_number", .natural l.lineNumber)]

end SourceLocation

end LogOrigin
