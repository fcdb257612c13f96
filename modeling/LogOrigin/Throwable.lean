import LogOrigin.StackFrame
import LogOrigin.Text.Alphanumeric

/-!
# Throwables

A throwable has a type, perhaps a message, the frames of its own trace with the innermost first, and
perhaps a cause. The cause chain is finite.
-/

namespace LogOrigin

/-- An exception with its trace and its cause. -/
inductive Throwable where
  | mk (typeName : String) (message : Option String) (frames : List StackFrame)
      (cause : Option Throwable)
  deriving Repr, Inhabited

namespace Throwable

/-- The type. -/
def typeName : Throwable → String
  | mk t _ _ _ => t

/-- The message. -/
def message : Throwable → Option String
  | mk _ m _ _ => m

/-- The trace, innermost frame first. -/
def frames : Throwable → List StackFrame
  | mk _ _ fs _ => fs

/-- What caused it. -/
def cause : Throwable → Option Throwable
  | mk _ _ _ c => c

/-- The throwable and its causes, outermost first. -/
def chain : Throwable → List Throwable
  | t@(mk _ _ _ none) => [t]
  | t@(mk _ _ _ (some c)) => t :: c.chain

/-- The innermost frame of its own trace. -/
def firstFrame (t : Throwable) : Option StackFrame := t.frames.head?

/-- The line that heads the trace of a throwable. -/
def display (t : Throwable) : String :=
  match t.message with
  | some m => t.typeName ++ ": " ++ m
  | none => t.typeName

/-- One link of a cause chain. -/
structure Link where
  typeName : String
  message : Option String
  frames : List StackFrame
  deriving DecidableEq, Repr

/-- The throwable of a cause chain, outermost link first. -/
def ofLinks? : List Link → Option Throwable
  | [] => none
  | l :: rest => some (mk l.typeName l.message l.frames (ofLinks? rest))

/-- The name at the front of a text that shows an error: its letters, digits and underscores. -/
def leadingName (shown : String) : String :=
  let name := shown.toList.takeWhile fun c => Text.isAlphanumeric c || c == '_'
  if name.isEmpty then "Error" else String.ofList name

/-- The throwable of an error with the errors it comes from. The type is the name in front of the
text that shows the outermost error, which alone has frames. -/
def ofErrors (shown : String) (outermost : String) (sources : List String)
    (frames : List StackFrame) : Throwable :=
  mk (leadingName shown) (some outermost) frames
    (ofLinks? (sources.map fun m => ⟨"source", some m, []⟩))

end Throwable

end LogOrigin
