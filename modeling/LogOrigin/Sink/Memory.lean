import LogOrigin.Sink

/-!
# Keeping records in memory

A sink that keeps every record, whatever the handle, and counts registrations and their ends. It can
be told which attempts to refuse.
-/

namespace LogOrigin

/-- A sink in memory. -/
structure MemorySink where
  /-- Refuses the attempt with this number; the first is number 1. -/
  refuses : Nat → Bool := fun _ => false
  records : Array LogRecord := #[]
  attempts : Nat := 0
  shutdowns : Nat := 0

namespace MemorySink

/-- A sink that refuses every registration. -/
def failing : MemorySink := { refuses := fun _ => true }

/-- Registers a log system, unless the attempt is refused. -/
def start (logSystem : String) (s : MemorySink) : Attempt MemorySink :=
  let s := { s with attempts := s.attempts + 1 }
  if s.refuses s.attempts then
    ⟨s, .error (.unavailable ("memory sink configured to refuse " ++ logSystem)), false⟩
  else ⟨s, .ok ⟨s.attempts⟩, false⟩

instance : Sink MemorySink where
  start := start
  write _ r s := { s with records := s.records.push r }
  shutdown _ s := { s with shutdowns := s.shutdowns + 1 }

end MemorySink

end LogOrigin
