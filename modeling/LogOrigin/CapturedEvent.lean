import LogOrigin.Decode.Document
import LogOrigin.Decode.Record
import LogOrigin.Log4j.Json
import LogOrigin.Log4j2.Json
import LogOrigin.Logback.Json

/-!
# Captured events

A captured event names its framework and holds the event in the framework's own form. In an object
the two may come in either order; an event that comes first is kept as a plain JSON value until its
framework is known, and only the framework says how to read it.
-/

namespace LogOrigin

/-- An event of one of the frameworks. -/
inductive CapturedEvent where
  | log4j (e : Log4j.Event)
  | log4j2 (e : Log4j2.Event)
  | logback (e : Logback.Event)

namespace CapturedEvent

/-- The framework of an event. -/
def framework : CapturedEvent → Framework
  | log4j _ => .log4j
  | log4j2 _ => .log4j2
  | logback _ => .logback

/-- The event has the level that filters it out. -/
def isOff : CapturedEvent → Bool
  | log4j e => e.level.isOff
  | log4j2 e => e.level.isOff
  | logback e => e.level.isOff

/-- The record of an event that is not filtered out; `now` is its time if it has none. -/
def normalize (policy : SkipPolicy) (stack : List StackFrame) (now : Instant) :
    CapturedEvent → Option LogRecord
  | log4j e => e.normalize policy stack now
  | log4j2 e => e.normalize policy stack now
  | logback e => e.normalize policy stack now

/-- Reads an event of a framework. -/
def decodeEvent (f : Framework) : Decode.DeepDecoder CapturedEvent := fun depth origin node =>
  match f with
  | .log4j => log4j <$> Log4j.Event.decode depth origin node
  | .log4j2 => log4j2 <$> Log4j2.Event.decode depth origin node
  | .logback => logback <$> Logback.Event.decode depth origin node

/-- A captured event while its members are being read. -/
structure Draft where
  framework : Option Framework := none
  /-- An event that came before its framework. -/
  kept : Option Json.Value := none
  event : Option CapturedEvent := none

open Decode (Fault)
open Json (Node Key)

/-- The key of the framework. -/
def frameworkKey : String := "framework"

/-- The key of the event. -/
def eventKey : String := "event"

/-- What messages call a captured event. -/
def phrase : String := "adjacently tagged enum CapturedEvent"

/-- Takes one member into the draft, with so much depth left inside. -/
def member (depth : Nat) (draft : Draft) (key : Key) (node : Node) : Except Fault Draft := do
  let name ← Decode.ofText key
  if name = frameworkKey then
    if draft.framework.isSome then throw (.duplicateField frameworkKey)
    let f ← Framework.variants.decode depth .streamed node
    match draft.kept with
    | none => return { draft with framework := some f }
    | some v =>
      let e ← Decode.keptValue (decodeEvent f) v
      return { draft with framework := some f, event := some e }
  else if name = eventKey then
    if draft.event.isSome || draft.kept.isSome then throw (.duplicateField eventKey)
    match draft.framework with
    | none => return { draft with kept := some (← Decode.ofText (node.value depth)) }
    | some f => return { draft with event := some (← decodeEvent f depth .streamed node) }
  else
    Decode.raise node.passingFault?
    return draft

/-- Reads the framework in a list, where only its name will do. -/
def listedFramework : Node → Except Fault Framework
  | .text s => do
    match ← Framework.variants.choose (← Decode.ofText s) with
    | .plain f => return f
    | .custom _ => throw (.missingField frameworkKey)
  | node => Decode.mismatch .variantName node

/-- Reads a captured event: an object with both members, or a list of the two. -/
def decode : Decode.DeepDecoder CapturedEvent
  | depth + 1, _, .object members ending => do
    let draft ← members.foldlM (fun draft (key, node) => member depth draft key node) {}
    Decode.raise ending.fault?
    let _ ← Decode.necessary frameworkKey draft.framework
    Decode.necessary eventKey draft.event
  | depth + 1, _, .list nodes ending => do
    match nodes with
    | [] =>
      Decode.raise ending.fault?
      throw (.wrongLength 0 (.phrase phrase))
    | first :: rest =>
      let f ← listedFramework first
      match rest with
      | [] =>
        Decode.raise ending.fault?
        throw (.wrongLength 1 (.phrase phrase))
      | second :: rest =>
        let e ← decodeEvent f depth .streamed second
        if !rest.isEmpty then throw (.malformed .trailingText)
        Decode.raise ending.finalFault?
        return e
  | 0, _, .object _ _ => .error (.malformed .tooDeep)
  | 0, _, .list _ _ => .error (.malformed .tooDeep)
  | _, _, node => Decode.mismatch (.phrase phrase) node

/-- Reads a captured event off the bytes of a line. -/
def ofLine (line : List UInt8) : Except Fault CapturedEvent :=
  Decode.bytes decode line

end CapturedEvent

end LogOrigin
