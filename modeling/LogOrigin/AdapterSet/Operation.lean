import LogOrigin.AdapterSet

/-!
# Operations on adapters

All that a program can ask of its adapters, of one of them or of all together. Some operations only
look: they leave the adapters as they are.
-/

namespace LogOrigin.AdapterSet

/-- An operation on the adapters. -/
inductive Operation where
  | start (f : Framework)
  | append (now : Instant) (e : CapturedEvent)
  /-- An append without an event. -/
  | appendNothing (f : Framework)
  /-- The record of an event. -/
  | normalize (now : Instant) (e : CapturedEvent)
  /-- Whether an event is filtered out. -/
  | isFiltered (e : CapturedEvent)
  /-- The state of an adapter. -/
  | state (f : Framework)
  | stop (f : Framework)
  /-- An event that finds its adapter by its framework. -/
  | dispatch (now : Instant) (e : CapturedEvent)
  | startAll
  | stopAll

namespace Operation

/-- The event that an operation hands to its adapter, with its time. -/
def event? : Operation → Option (Instant × CapturedEvent)
  | append now e | dispatch now e => some (now, e)
  | _ => none

/-- The operation needs the adapter of a framework to be registered. -/
def starts (f : Framework) : Operation → Bool
  | start g => g = f
  | startAll => true
  | op => op.event?.any fun (_, e) => !e.isOff && e.framework = f

/-- The operation stops the adapter of a framework. -/
def stops (f : Framework) : Operation → Bool
  | stop g => g = f
  | stopAll => true
  | _ => false

/-- The framework whose adapter an operation is about, unless it is about all of them. -/
def framework? : Operation → Option Framework
  | start f | appendNothing f | state f | stop f => some f
  | append _ e | normalize _ e | isFiltered e | dispatch _ e => some e.framework
  | startAll | stopAll => none

/-- The operation is about the adapter of a framework, if only among others. -/
def concerns (f : Framework) (op : Operation) : Bool := op.framework?.all fun g => g = f

/-- The part of an operation that is about the adapter of a framework. -/
def part (f : Framework) : Operation → Operation
  | startAll => start f
  | stopAll => stop f
  | op => op

/-- Operations without all that is about other adapters than that of a framework. -/
def alone (f : Framework) (ops : List Operation) : List Operation :=
  (ops.filter (concerns f)).map (part f)

section Concerns

variable {f g : Framework} {op : Operation}

theorem eq_of_concerns (hop : op.concerns f = true) (hg : op.framework? = some g) : g = f := by
  rw [concerns, hg] at hop
  exact of_decide_eq_true hop

theorem ne_of_not_concerns (hop : op.concerns f = false) (hg : op.framework? = some g) :
    g ≠ f := by
  rw [concerns, hg] at hop
  exact of_decide_eq_false hop

end Concerns

end Operation

variable {σ : Type} [Sink σ]

/-- The adapters after an operation. -/
def operate (s : AdapterSet σ) : Operation → AdapterSet σ
  | .start f => s.start f
  | .append now e | .dispatch now e => s.append now e
  | .stop f => s.stop f
  | .startAll => s.startAll
  | .stopAll => s.stopAll
  | .appendNothing _ | .normalize _ _ | .isFiltered _ | .state _ => s

/-- The adapters after operations. -/
def operateAll (s : AdapterSet σ) (ops : List Operation) : AdapterSet σ := ops.foldl operate s

/-- An event is not filtered out, and its adapter, once it has registered if it had not tried to, is
neither stopped nor failed. -/
def accepts (s : AdapterSet σ) (e : CapturedEvent) : Bool :=
  !e.isOff && !([.stopped, .failed].contains ((s.start e.framework).state e.framework))

/-- The events that are accepted in the course of operations, with their times. -/
def accepted (s : AdapterSet σ) : List Operation → List (Instant × CapturedEvent)
  | [] => []
  | op :: ops =>
    (op.event?.filter fun (_, e) => s.accepts e).toList ++ (s.operate op).accepted ops

end LogOrigin.AdapterSet
