import LogOrigin.Binding
import Mathlib.Logic.Function.Basic

/-!
# Bindings under concurrent calls

Any number of threads may call one binding. Each look at what they share and each call of the sink
is a step of its own, and the steps of the threads mix in any order. The registration is filled
once: the thread that finds it pending registers with the sink, all others that need it wait, and
until it is filled it looks pending to everyone who only reads it.

The steps follow `Binding.start`, `Binding.write` and `Binding.stop`, which they come to when a
thread is alone.
-/

namespace LogOrigin

namespace Registration

/-- The registration that an answer of the sink comes to. -/
def ofAnswer : Except SinkError Handle → Registration
  | .ok h => .granted h
  | .error _ => .refused

/-- The state of a binding with this registration that is not stopped. -/
def state : Registration → AdapterState
  | pending => .uninitialized
  | refused => .failed
  | granted _ => .started

end Registration

namespace Binding

/-- A call of a binding. -/
inductive Call where
  | start
  | write (r : LogRecord)
  | stop
  | state

/-- What a call needs the handle for. -/
inductive Purpose where
  | start
  | write (r : LogRecord)

namespace Purpose

/-- The call that has this purpose. -/
def call : Purpose → Call
  | start => .start
  | write r => .write r

end Purpose

/-- Where a thread goes on after a stop, or after giving the registration back. -/
inductive Return where
  /-- Its call is over. -/
  | done
  /-- Its call still reports the state. -/
  | report
  /-- It was the sink that stopped the binding, and the sink still has to answer. -/
  | sink (p : Purpose) (answer : Except SinkError Handle)

/-- Where a thread stands. -/
inductive Position where
  /-- Between two calls. -/
  | idle
  /-- About to look whether the binding is stopped, before it asks for the handle. -/
  | check (p : Purpose)
  /-- Asking for the handle, and waiting while another thread registers. -/
  | await (p : Purpose)
  /-- In the sink, which will answer the registration. -/
  | register (p : Purpose) (answer : Except SinkError Handle)
  /-- About to let all others see the answer. -/
  | publish (p : Purpose) (answer : Except SinkError Handle)
  /-- About to look again whether the binding is stopped, with the handle it found. -/
  | recheck (p : Purpose) (handle? : Option Handle)
  /-- About to hand a record to the sink. -/
  | forward (h : Handle) (r : LogRecord)
  /-- About to stop the binding. -/
  | halt (k : Return)
  /-- Giving the registration back: about to look whether there is one. -/
  | release (k : Return)
  /-- About to mark the registration as given back. -/
  | claim (k : Return) (h : Handle)
  /-- About to shut the registration down. -/
  | shutdown (k : Return) (h : Handle)
  /-- About to look whether the binding is stopped, to report the state. -/
  | checkState
  /-- About to report the state by the registration. -/
  | readState

namespace Position

/-- No call is in progress. -/
def isIdle : Position → Bool
  | idle => true
  | _ => false

end Position

/-- Where a call begins. -/
def Call.entry : Call → Position
  | start => .check .start
  | write r => .check (.write r)
  | stop => .halt .done
  | state => .checkState

/-- Where a thread stands once its stop is done, or its registration given back. -/
def Return.position : Return → Position
  | done => .idle
  | report => .checkState
  | sink p answer => .register p answer

/-- How a call goes on without a handle. -/
def Purpose.withoutHandle : Purpose → Return
  | start => .report
  | write _ => .done

/-- What can be seen of the threads, which are known by `ι`: their calls of the sink, with its
answers, and the states that they report. A thread's calls are numbered from 0. -/
inductive Event (ι : Type) where
  /-- The sink is asked for a registration. -/
  | start
  | granted (h : Handle)
  | refused (e : SinkError)
  | write (thread : ι) (number : Nat) (h : Handle) (r : LogRecord)
  | shutdown (h : Handle)
  | reported (thread : ι) (number : Nat) (s : AdapterState)

/-- How the sink answered, as an event. -/
def Event.ofAnswer {ι : Type} : Except SinkError Handle → Event ι
  | .ok h => .granted h
  | .error e => .refused e

/-- What threads share. -/
structure Shared (ι σ : Type) where
  binding : Binding
  /-- A thread is registering. -/
  registering : Bool := false
  sink : σ
  /-- What could be seen so far. -/
  log : List (Event ι) := []

variable {ι σ : Type}

namespace Shared

/-- Adds an event. -/
def note (s : Shared ι σ) (e : Event ι) : Shared ι σ := { s with log := s.log ++ [e] }

end Shared

section Step

variable [Sink σ]

/-- One step of a thread that stands at `pos` in its call with number `number`; `next?` is the call
that it would begin. A thread that has to wait, or has no call left, has no step. -/
def advance (t : ι) (number : Nat) (next? : Option Call) (s : Shared ι σ) (pos : Position) :
    Option (Shared ι σ × Position) :=
  let b := s.binding
  match pos with
  | .idle => next?.map fun c => (s, c.entry)
  | .check p => some (s, if b.stopped then p.withoutHandle.position else .await p)
  | .await p =>
    match b.registration with
    | .granted h => some (s, .recheck p (some h))
    | .refused => some (s, .recheck p none)
    | .pending =>
      if s.registering then none
      else
        let attempt := Sink.start b.logSystem s.sink
        let asked := { s with registering := true, sink := attempt.sink }.note .start
        some (asked, if attempt.stopsCaller then .halt (.sink p attempt.result)
          else .register p attempt.result)
  | .register p answer => some (s.note (.ofAnswer answer), .publish p answer)
  | .publish p answer =>
    some ({ s with
      binding := { b with registration := .ofAnswer answer }
      registering := false }, .recheck p answer.toOption)
  | .recheck p handle? =>
    some (s, if b.stopped then .release p.withoutHandle
      else match p, handle? with
        | .start, _ => .checkState
        | .write r, some h => .forward h r
        | .write _, none => .idle)
  | .forward h r =>
    some ({ s with sink := Sink.write h r s.sink }.note (.write t number h r), .idle)
  | .halt k =>
    if b.stopped then some (s, k.position)
    else some ({ s with binding := { b with stopped := true } }, .release k)
  | .release k =>
    match b.registration with
    | .granted h => some (s, .claim k h)
    | _ => some (s, k.position)
  | .claim k h =>
    if b.released then some (s, k.position)
    else some ({ s with binding := { b with released := true } }, .shutdown k h)
  | .shutdown k h =>
    some ({ s with sink := Sink.shutdown h s.sink }.note (.shutdown h), k.position)
  | .checkState =>
    if b.stopped then some (s.note (.reported t number .stopped), .idle) else some (s, .readState)
  | .readState =>
    some (s.note (.reported t number b.registration.state), .idle)

end Step

/-- A binding with the threads that call it. -/
structure Threads (ι σ : Type) where
  shared : Shared ι σ
  position : ι → Position
  /-- How many calls each thread has finished. -/
  finished : ι → Nat

namespace Threads

/-- Threads that have not begun, over a binding that has not been used. -/
def initial (logSystem : String) (sink : σ) : Threads ι σ where
  shared := { binding := .fresh logSystem, sink }
  position _ := .idle
  finished _ := 0

variable [DecidableEq ι] [Sink σ]

/-- One step of thread `t`, if it has one; each thread makes the calls of its program in order. -/
def step (programs : ι → List Call) (t : ι) (m : Threads ι σ) : Option (Threads ι σ) :=
  (advance t (m.finished t) (programs t)[m.finished t]? m.shared (m.position t)).map
    fun (shared, pos) =>
      { shared
        position := Function.update m.position t pos
        finished := if pos.isIdle then Function.update m.finished t (m.finished t + 1)
          else m.finished }

/-- Lets threads step in the order of a schedule; one that has no step is passed over. -/
def run (programs : ι → List Call) (schedule : List ι) (m : Threads ι σ) : Threads ι σ :=
  schedule.foldl (fun m t => (m.step programs t).getD m) m

end Threads

/-- The records that one call handed to the sink, with the handles. -/
def forwards [DecidableEq ι] (log : List (Event ι)) (t : ι) (number : Nat) :
    List (Handle × LogRecord) :=
  log.filterMap fun
    | .write u n h r => if u = t ∧ n = number then some (h, r) else none
    | _ => none

end Binding

end LogOrigin
