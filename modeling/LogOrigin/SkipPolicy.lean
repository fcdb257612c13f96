import LogOrigin.Decode.Variant
import LogOrigin.Limits

/-!
# Skip policies

A policy says which frames a logging call contributes on top of the application: a number of
innermost frames, and every frame whose owner starts with one of some texts. It also says which
throwable of a cause chain attributes an event.
-/

namespace LogOrigin

/-- Which throwable of a cause chain counts. -/
inductive ExceptionMode where
  /-- Always the outermost. -/
  | outer
  /-- The first whose innermost frame is not excluded. -/
  | skipExcluded
  deriving DecidableEq, Repr

namespace ExceptionMode

/-- The name of a mode. -/
def label : ExceptionMode → String
  | outer => "outer"
  | skipExcluded => "skip-excluded"

/-- Modes by their names. -/
def variants : Decode.Variants ExceptionMode where
  plain := [outer, skipExcluded].map fun m => (m.label, m)

/-- Reads a mode by its name. -/
def decode : Decode.DeepDecoder ExceptionMode := variants.decode

/-- A mode as its name. -/
def toJson (m : ExceptionMode) : Json.Value := .text m.label

end ExceptionMode

/-- Which frames are passed over when an event is attributed. -/
structure SkipPolicy where
  skipFrames : Nat := 0
  exclusions : List String := []
  exceptionMode : ExceptionMode := .outer
  deriving DecidableEq, Repr

namespace SkipPolicy

/-- Passes over nothing. -/
def none : SkipPolicy := {}

/-- Excludes the attribution machinery itself and the given owners. -/
def excluding (owners : List String) : SkipPolicy where
  exclusions := Limits.ownFrames :: Limits.walkerFrames :: owners

end SkipPolicy

end LogOrigin
