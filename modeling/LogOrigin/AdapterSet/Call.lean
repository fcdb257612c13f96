import LogOrigin.AdapterSet

/-!
# Calls of adapters

What a program can do with its adapters, call by call.
-/

namespace LogOrigin.AdapterSet

/-- A call of one of the adapters. -/
inductive Call where
  | start (f : Framework)
  /-- An event for its adapter, which may be missing. -/
  | append (now : Instant) (e? : Option CapturedEvent)
  | stop (f : Framework)
  /-- An event that finds its adapter by its framework. -/
  | dispatch (now : Instant) (e : CapturedEvent)

namespace Call

/-- The event that a call brings, with its time. -/
def event? : Call → Option (Instant × CapturedEvent)
  | append now (some e) | dispatch now e => some (now, e)
  | _ => none

/-- The call starts an adapter that has not been started, be it to take an event. -/
def starts (f : Framework) : Call → Bool
  | start g => g = f
  | c => c.event?.any fun (_, e) => !e.isOff && e.framework = f

end Call

variable {σ : Type} [Sink σ]

/-- The adapters after a call. -/
def perform (s : AdapterSet σ) : Call → AdapterSet σ
  | .start f => s.start f
  | .append _ none => s
  | .append now (some e) => s.append now e
  | .stop f => s.stop f
  | .dispatch now e => s.append now e

/-- The record that a call forwards to the sink: that of its event, if the adapter is started. -/
def forwarded? (s : AdapterSet σ) (c : Call) : Option LogRecord := do
  let (now, e) ← c.event?
  if (s.perform c).state e.framework = .started then s.normalize now e else none

end LogOrigin.AdapterSet
