/-!
# Stack frames

A stack frame names the method that was running, the owner of the method, and where in the source
it stood. The owner is a class, or a path of modules whose parts are joined by two colons.
-/

namespace LogOrigin

/-- An entry of a call stack. -/
structure StackFrame where
  className : String
  methodName : String
  fileName : Option String := none
  /-- The line, counted from 1; 0 when it is not known. -/
  lineNumber : Nat := 0
  deriving DecidableEq, Repr, Inhabited

namespace StackFrame

/-- Whether the owner starts with one of the texts. -/
def isExcluded (frame : StackFrame) (owners : List String) : Bool :=
  owners.any fun owner => owner.toList.isPrefixOf frame.className.toList

/-- Whether two colons stand next to each other in a text. -/
def hasPathSeparator : List Char → Bool
  | ':' :: ':' :: _ => true
  | _ :: rest => hasPathSeparator rest
  | [] => false

/-- The source position in parentheses. -/
def displayPosition (frame : StackFrame) : String :=
  match frame.fileName, frame.lineNumber with
  | some file, 0 => "(" ++ file ++ ")"
  | some file, line => "(" ++ file ++ ":" ++ toString line ++ ")"
  | none, _ => "(Unknown Source)"

/-- A frame as a line of a trace shows it. -/
def display (frame : StackFrame) : String :=
  let separator := if hasPathSeparator frame.className.toList then "::" else "."
  frame.className ++ separator ++ frame.methodName ++ frame.displayPosition

end StackFrame

end LogOrigin
