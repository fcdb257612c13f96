import LogOrigin.Binding
import LogOrigin.Sink.Memory

/-!
# A sink with a journal

A sink in memory that notes every end of a registration, and that can be told to stop whoever
registers before it answers. In that case it notes the states of the caller before and after.
-/

namespace LogOrigin

/-- A sink in memory with a journal. -/
structure JournalSink where
  memory : MemorySink := {}
  /-- Stops the caller before answering to a registration. -/
  stopsCallers : Bool := false
  journal : Array String := #[]

namespace JournalSink

/-- The states of a caller around a stop that comes while its registration is pending. -/
def statesAroundStop (logSystem : String) : List String :=
  let caller := Binding.fresh logSystem
  [caller.state.label, { caller with stopped := true }.state.label]

/-- Registers a log system, perhaps stopping the caller before the answer. -/
def start (logSystem : String) (s : JournalSink) : Attempt JournalSink :=
  let attempt := s.memory.start logSystem
  let seen := if s.stopsCallers then statesAroundStop logSystem else []
  { sink := { s with memory := attempt.sink, journal := s.journal ++ seen.toArray }
    result := attempt.result
    stopsCaller := s.stopsCallers }

instance : Sink JournalSink where
  start := start
  write h r s := { s with memory := Sink.write h r s.memory }
  shutdown h s := { s with
    memory := Sink.shutdown h s.memory
    journal := s.journal.push ("shutdown " ++ toString h.id) }

end JournalSink

end LogOrigin
