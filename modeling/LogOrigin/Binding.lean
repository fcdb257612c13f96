import LogOrigin.Sink

/-!
# Bindings

A binding ties an adapter to a sink. It registers when it is first needed, at most once; a refused
registration is final. Stopping is final too, and gives a registration back exactly once: the stop
does it, or, where the stop came while the sink was still answering, the registering call does.
-/

namespace LogOrigin

/-- Where a binding is in its life. -/
inductive AdapterState where
  | uninitialized
  | started
  | failed
  | stopped
  deriving DecidableEq, Repr

/-- The name of a state. -/
def AdapterState.label : AdapterState → String
  | uninitialized => "Uninitialized"
  | started => "Started"
  | failed => "Failed"
  | stopped => "Stopped"

/-- The registration of a binding. -/
inductive Registration where
  /-- It has not been attempted. -/
  | pending
  /-- It was refused. -/
  | refused
  | granted (h : Handle)
  deriving DecidableEq, Repr

/-- A binding between calls. -/
structure Binding where
  logSystem : String
  registration : Registration := .pending
  stopped : Bool := false
  /-- The registration has been given back. -/
  released : Bool := false
  deriving DecidableEq, Repr

namespace Binding

/-- A binding that has not been used. -/
def fresh (logSystem : String) : Binding := { logSystem }

/-- The state of a binding. -/
def state (b : Binding) : AdapterState :=
  if b.stopped then .stopped
  else
    match b.registration with
    | .pending => .uninitialized
    | .refused => .failed
    | .granted _ => .started

/-- How a binding shows itself. -/
def display (b : Binding) : String :=
  "SinkBinding \x7b log_system: " ++ Text.quoted b.logSystem ++ ", state: " ++ b.state.label ++
    " \x7d"

variable {σ : Type} [Sink σ]

/-- Gives the registration back, if there is one and it has not been given back. -/
def release (b : Binding) (sink : σ) : Binding × σ :=
  match b.registration with
  | .granted h =>
    if b.released then (b, sink) else ({ b with released := true }, Sink.shutdown h sink)
  | _ => (b, sink)

/-- Stops the binding. -/
def stop (b : Binding) (sink : σ) : Binding × σ :=
  if b.stopped then (b, sink) else release { b with stopped := true } sink

/-- Registers, if that has not been attempted. -/
def register (b : Binding) (sink : σ) : Binding × σ :=
  match b.registration with
  | .pending =>
    let attempt := Sink.start b.logSystem sink
    let registration := match attempt.result with
      | .ok h => .granted h
      | .error _ => .refused
    ({ b with registration, stopped := b.stopped || attempt.stopsCaller }, attempt.sink)
  | _ => (b, sink)

/-- The handle of a binding that has one. -/
def handle? (b : Binding) : Option Handle :=
  match b.registration with
  | .granted h => some h
  | _ => none

/-- Registers if need be, and gives the handle of a binding that is not stopped. A stop that came
while the sink was answering wins. -/
def ensureStarted (b : Binding) (sink : σ) : Binding × σ × Option Handle :=
  if b.stopped then (b, sink, none)
  else
    let (b, sink) := b.register sink
    if b.stopped then
      let (b, sink) := b.release sink
      (b, sink, none)
    else (b, sink, b.handle?)

/-- Registers if need be. -/
def start (b : Binding) (sink : σ) : Binding × σ :=
  let (b, sink, _) := b.ensureStarted sink
  (b, sink)

/-- Writes a record, registering if need be; without a registration the record is dropped. -/
def write (b : Binding) (r : LogRecord) (sink : σ) : Binding × σ :=
  match b.ensureStarted sink with
  | (b, sink, some h) => (b, Sink.write h r sink)
  | (b, sink, none) => (b, sink)

end Binding

end LogOrigin
