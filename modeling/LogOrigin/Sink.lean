import LogOrigin.Error
import LogOrigin.LogRecord

/-!
# Sinks

Where records go. A log system registers with a sink and gets a handle, writes records through it,
and gives it back. Writing and shutting down never fail from the caller's point of view. A sink may
turn round on the caller that is registering: it may stop it before it answers.
-/

namespace LogOrigin

/-- What a registration is known by. -/
structure Handle where
  id : Nat
  deriving DecidableEq, Repr

/-- How a sink answers to a registration. -/
structure Attempt (σ : Type) where
  /-- The sink afterwards. -/
  sink : σ
  result : Except SinkError Handle
  /-- The sink stopped the caller before it answered. -/
  stopsCaller : Bool := false

/-- Sinks with states of type `σ`. -/
class Sink (σ : Type) where
  /-- Registers a log system. -/
  start (logSystem : String) (sink : σ) : Attempt σ
  /-- Takes a record. -/
  write (h : Handle) (r : LogRecord) (sink : σ) : σ
  /-- Ends a registration. -/
  shutdown (h : Handle) (sink : σ) : σ

end LogOrigin
