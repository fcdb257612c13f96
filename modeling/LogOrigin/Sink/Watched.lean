import LogOrigin.Sink

/-!
# Watched sinks

A sink that passes every call on to another one and notes it, and that answers as the other one
does.
-/

namespace LogOrigin

/-- What matters to whoever registers about how a sink answers. -/
structure Answer where
  granted : Bool
  /-- The sink stopped the caller before it answered. -/
  stopsCaller : Bool
  deriving DecidableEq, Repr

/-- The answer that an attempt got. -/
def Attempt.answer {σ : Type} (a : Attempt σ) : Answer := ⟨a.result.isOk, a.stopsCaller⟩

/-- A call that a sink received. -/
inductive SinkCall where
  | start (logSystem : String) (answer : Answer)
  | write (h : Handle) (r : LogRecord)
  | shutdown (h : Handle)

namespace SinkCall

/-- The answer that a log system got from the call. -/
def answerTo? (logSystem : String) : SinkCall → Option Answer
  | start s a => if s = logSystem then some a else none
  | _ => none

/-- The record that the call brought. -/
def record? : SinkCall → Option LogRecord
  | write _ r => some r
  | _ => none

/-- The call ended a registration. -/
def isShutdown : SinkCall → Bool
  | shutdown _ => true
  | _ => false

/-- The answers that a log system got. -/
def answersTo (logSystem : String) (calls : List SinkCall) : List Answer :=
  calls.filterMap (answerTo? logSystem)

/-- The records that a sink received. -/
def records (calls : List SinkCall) : List LogRecord := calls.filterMap record?

@[simp] theorem answersTo_append (logSystem : String) (calls more : List SinkCall) :
    answersTo logSystem (calls ++ more) = answersTo logSystem calls ++ answersTo logSystem more :=
  List.filterMap_append

@[simp] theorem records_append (calls more : List SinkCall) :
    records (calls ++ more) = records calls ++ records more :=
  List.filterMap_append

end SinkCall

/-- A sink with all the calls that it has received. -/
structure WatchedSink (σ : Type) where
  inner : σ
  calls : List SinkCall := []

namespace WatchedSink

variable {σ : Type}

/-- Notes a call that left the sink behind it in the given state. -/
def note (s : WatchedSink σ) (call : SinkCall) (inner : σ) : WatchedSink σ :=
  ⟨inner, s.calls ++ [call]⟩

variable [Sink σ]

/-- Passes on a registration. -/
def start (logSystem : String) (s : WatchedSink σ) : Attempt (WatchedSink σ) :=
  let attempt := Sink.start logSystem s.inner
  { sink := s.note (.start logSystem attempt.answer) attempt.sink
    result := attempt.result
    stopsCaller := attempt.stopsCaller }

instance : Sink (WatchedSink σ) where
  start := start
  write h r s := s.note (.write h r) (Sink.write h r s.inner)
  shutdown h s := s.note (.shutdown h) (Sink.shutdown h s.inner)

end WatchedSink

end LogOrigin
