import LogOrigin.Binding
import LogOrigin.CapturedEvent
import LogOrigin.Config

/-!
# Adapters

One adapter for each framework, all of them over one sink. An adapter turns the events of its
framework into records with the framework's policy and writes them through its own binding. An event
that is filtered out never touches the sink, not even to register with it.
-/

namespace LogOrigin

/-- The adapters over a sink, with the call stack at which events arrive. -/
structure AdapterSet (σ : Type) where
  policies : PerFramework SkipPolicy
  bindings : PerFramework Binding
  stack : List StackFrame
  sink : σ

namespace AdapterSet

variable {σ : Type}

/-- Fresh adapters over a sink. -/
def ofConfig (config : Config) (stack : List StackFrame) (sink : σ) : AdapterSet σ where
  policies := config.policies
  bindings := .make fun f => .fresh f.logSystem
  stack
  sink

/-- The state of an adapter. -/
def state (s : AdapterSet σ) (f : Framework) : AdapterState := (s.bindings.get f).state

/-- The record of an event, unless it is filtered out; `now` is its time if it has none. -/
def normalize (s : AdapterSet σ) (now : Instant) (e : CapturedEvent) : Option LogRecord :=
  e.normalize (s.policies.get e.framework) s.stack now

variable [Sink σ]

/-- Lets the binding of an adapter act on the sink. -/
def act (s : AdapterSet σ) (f : Framework) (action : Binding → σ → Binding × σ) : AdapterSet σ :=
  let (b, sink) := action (s.bindings.get f) s.sink
  { s with bindings := s.bindings.set f b, sink }

/-- Starts an adapter. -/
def start (s : AdapterSet σ) (f : Framework) : AdapterSet σ := s.act f Binding.start

/-- Stops an adapter. -/
def stop (s : AdapterSet σ) (f : Framework) : AdapterSet σ := s.act f Binding.stop

/-- Takes an event of an adapter's framework at the time `now`. The adapter registers before it
makes the record, and drops the event if it cannot. -/
def append (s : AdapterSet σ) (now : Instant) (e : CapturedEvent) : AdapterSet σ :=
  if e.isOff then s
  else
    let s := s.start e.framework
    if s.state e.framework = .started then
      match s.normalize now e with
      | some r => s.act e.framework (·.write r)
      | none => s
    else s

/-- Starts all adapters in order. -/
def startAll (s : AdapterSet σ) : AdapterSet σ := Framework.all.foldl start s

/-- All adapters are started. -/
def allStarted (s : AdapterSet σ) : Bool :=
  Framework.all.all fun f => s.state f = .started

/-- Stops all adapters in order. -/
def stopAll (s : AdapterSet σ) : AdapterSet σ := Framework.all.foldl stop s

end AdapterSet

end LogOrigin
