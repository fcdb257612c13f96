import LogOrigin.SkipPolicy
import LogOrigin.SourceLocation
import LogOrigin.Throwable

/-!
# Attribution

An event is attributed to the location that came with it, if that says anything; otherwise to the
trace of its throwable; and without a throwable to the first frame of the call stack that the policy
does not pass over.
-/

namespace LogOrigin

/-- The location of a frame that may be missing. -/
def SourceLocation.ofFrame? : Option StackFrame → SourceLocation
  | some frame => ofFrame frame
  | none => unknown

namespace Attribution

/-- The first frame behind the skipped ones whose owner is not excluded. -/
def firstQualifying (skip : Nat) (exclusions : List String) (stack : List StackFrame) :
    Option StackFrame :=
  (stack.drop skip).find? fun frame => !frame.isExcluded exclusions

/-- The location of the first frame of a stack that is not passed over. -/
def ofStack (skip : Nat) (exclusions : List String) (stack : List StackFrame) : SourceLocation :=
  .ofFrame? (firstQualifying skip exclusions stack)

/-- The location of a throwable: the innermost frame of the outermost throwable, or of the first one
in the chain where that frame is not excluded, if the policy says so and there is one. -/
def ofThrowable (policy : SkipPolicy) (t : Throwable) : SourceLocation :=
  match policy.exceptionMode with
  | .outer => .ofFrame? t.firstFrame
  | .skipExcluded =>
    let candidates := (t.chain.take Limits.causeDepth).filterMap Throwable.firstFrame
    .ofFrame? ((candidates.find? fun frame => !frame.isExcluded policy.exclusions) <|> t.firstFrame)

/-- The location of a throwable, or of the stack if there is none. -/
def locate (policy : SkipPolicy) (throwable : Option Throwable) (stack : List StackFrame) :
    SourceLocation :=
  match throwable with
  | some t => ofThrowable policy t
  | none => ofStack policy.skipFrames policy.exclusions stack

/-- The location that came with an event, or else the one that is found. -/
def ofEvent (explicit : Option SourceLocation) (policy : SkipPolicy)
    (throwable : Option Throwable) (stack : List StackFrame) : SourceLocation :=
  match explicit with
  | some l => if l.isUnknown then locate policy throwable stack else l
  | none => locate policy throwable stack

end Attribution

end LogOrigin
