import LogOrigin.Proofs.JsonTrailing
import LogOrigin.Proofs.ReplaySummary

/-!
# The events of an input

A line of an input comes to an event, or to nothing: it is blank, it is too long, or it does not
hold an event. Which of these it is depends on the bytes between its line feeds alone
(`Replay.event?`), though the line that is read may lack a carriage return.
-/

namespace LogOrigin

open Json (Node)
open Json.Byte (carriageReturn)

namespace CapturedEvent

/-- What fails in any case fails. -/
theorem exists_error_of_bind {α β : Type} {x : Except Decode.Fault α}
    {next : α → Except Decode.Fault β} (h : ∀ a, ∃ fault, next a = .error fault) :
    ∃ fault, (x >>= next) = .error fault := by
  cases x with
  | error fault => exact ⟨fault, rfl⟩
  | ok a => exact h a

/-- A document that breaks off holds no event. -/
theorem decode_of_not_whole (depth : Nat) (origin : Decode.Origin) {node : Node}
    (h : node.isWhole = false) : ∃ fault, decode depth origin node = .error fault := by
  cases node with
  | null => cases h
  | bool b => cases h
  | number n => cases h
  | text s => cases h
  | broken b => exact ⟨.malformed b.contents, by cases depth <;> rfl⟩
  | list nodes ending =>
    have hfault : ∃ fault, Decode.raise ending.finalFault? = .error fault := by
      cases ending with
      | closed => cases h
      | _ => exact ⟨_, rfl⟩
    obtain ⟨fault, hfault⟩ := hfault
    cases depth with
    | zero => exact ⟨_, rfl⟩
    | succ depth =>
      unfold decode
      rcases nodes with _ | ⟨first, _ | ⟨second, rest⟩⟩
      · exact exists_error_of_bind fun _ => ⟨_, rfl⟩
      · exact exists_error_of_bind fun _ => exists_error_of_bind fun _ => ⟨_, rfl⟩
      · refine exists_error_of_bind fun f => exists_error_of_bind fun e => ?_
        cases rest with
        | cons third rest => exact ⟨_, rfl⟩
        | nil => exact ⟨fault, by simp only [hfault]; rfl⟩
  | object members ending =>
    have hfault : ∃ fault, Decode.raise ending.fault? = .error fault := by
      cases ending with
      | closed => cases h
      | _ => exact ⟨_, rfl⟩
    obtain ⟨fault, hfault⟩ := hfault
    cases depth with
    | zero => exact ⟨_, rfl⟩
    | succ depth =>
      unfold decode
      exact exists_error_of_bind fun draft => ⟨fault, by simp only [hfault]; rfl⟩

/-- A carriage return behind a line makes no difference to its event. -/
theorem ofLine_append (line : List UInt8) :
    (ofLine (line ++ [carriageReturn])).toOption = (ofLine line).toOption := by
  obtain hsame | ⟨hbroken, hbroken'⟩ := Json.read_append line
  · rw [ofLine, ofLine, Decode.bytes, Decode.bytes, hsame]
  · obtain ⟨fault, hfault⟩ := decode_of_not_whole Json.maxDepth .streamed hbroken
    obtain ⟨fault', hfault'⟩ := decode_of_not_whole Json.maxDepth .streamed hbroken'
    simp only [ofLine, Decode.bytes, Decode.document, hfault, hfault']
    rfl

end CapturedEvent

namespace Replay

/-! ## One line -/

/-- The event of a line with these bytes, if it comes to one: it is not too long, it is not blank,
and it holds one. -/
def event? (raw : List UInt8) : Option CapturedEvent :=
  if raw.length ≤ Limits.lineBytes ∧ raw.all Line.isBlankByte = false then
    (CapturedEvent.ofLine raw).toOption
  else none

/-- A line knows whether its bytes are blank. -/
theorem isBlank_of_shows {raw : List UInt8} {l : Line} (h : l.Shows Limits.lineBytes raw) :
    l.isBlank = (decide (raw.length ≤ Limits.lineBytes) && raw.all Line.isBlankByte) := by
  by_cases hshort : raw.length ≤ Limits.lineBytes
  · obtain ⟨hlength, hkept⟩ := h.short hshort
    have hle : l.length ≤ Limits.lineBytes := by
      rcases hkept with hkept | hkept
      · rw [hlength, hkept]
        exact hshort
      · rw [hkept, List.length_append] at hshort
        omega
    have hall : raw.all Line.isBlankByte = l.kept.all Line.isBlankByte := by
      rcases hkept with hkept | hkept
      · rw [hkept]
      · rw [hkept, List.all_append]
        exact Bool.and_true _
    rw [Line.isBlank, decide_eq_true hle, decide_eq_true hshort, hall]
  · have hlong := h.long (Nat.lt_of_not_le hshort)
    rw [Line.isBlank, hlong, decide_eq_false hshort]
    rfl

/-- A line that is not blank holds the event that its bytes come to. -/
theorem event_of_shows {raw : List UInt8} {l : Line} (h : l.Shows Limits.lineBytes raw)
    (hblank : l.isBlank = false) : l.event.toOption = event? raw := by
  rw [isBlank_of_shows h] at hblank
  by_cases hshort : raw.length ≤ Limits.lineBytes
  · rw [decide_eq_true hshort, Bool.true_and] at hblank
    obtain ⟨hlength, hkept⟩ := h.short hshort
    have hsame : (CapturedEvent.ofLine l.kept).toOption = (CapturedEvent.ofLine raw).toOption := by
      rcases hkept with hkept | hkept
      · rw [hkept]
      · rw [hkept]
        exact (CapturedEvent.ofLine_append l.kept).symm
    have hle : ¬ Limits.lineBytes < l.length := by
      rcases hkept with hkept | hkept
      · rw [hlength, hkept]
        exact Nat.not_lt_of_le hshort
      · rw [hkept, List.length_append] at hshort
        omega
    rw [event?, if_pos ⟨hshort, hblank⟩, ← hsame, Line.event, if_neg hle]
    cases CapturedEvent.ofLine l.kept <;> rfl
  · have hlt := Nat.lt_of_not_le hshort
    have hlong := h.long hlt
    rw [event?, if_neg fun hshort' => hshort hshort'.1, Line.event, hlong, if_pos hlt]
    rfl

variable {σ : Type} [Sink σ]

/-- A line whose bytes come to an event has it handed to its adapter. -/
theorem step_of_event {raw : List UInt8} {l : Line} (h : l.Shows Limits.lineBytes raw)
    {e : CapturedEvent} (he : event? raw = some e) (clock : Nat → Instant) (p : Progress σ) :
    step clock p l =
      ⟨p.lineNumber + 1, p.summary.dispatch, p.adapters.append (clock (p.lineNumber + 1)) e⟩ := by
  have hblank : l.isBlank = false := by
    rw [isBlank_of_shows h]
    by_contra hblank
    rw [Bool.not_eq_false, Bool.and_eq_true] at hblank
    rw [event?, if_neg fun hne => by rw [hblank.2] at hne; cases hne.2] at he
    cases he
  have hevent := event_of_shows h hblank
  rw [he] at hevent
  cases hl : l.event with
  | error cause => rw [hl] at hevent; cases hevent
  | ok e' =>
    rw [hl] at hevent
    cases hevent
    exact step_of_ok clock p hblank hl

/-- A line whose bytes come to nothing only counts. -/
theorem step_of_no_event {raw : List UInt8} {l : Line} (h : l.Shows Limits.lineBytes raw)
    (he : event? raw = none) (clock : Nat → Instant) (p : Progress σ) :
    (step clock p l).lineNumber = p.lineNumber + 1 ∧ (step clock p l).adapters = p.adapters ∧
      (step clock p l).summary.dispatched = p.summary.dispatched := by
  cases hblank : l.isBlank with
  | true =>
    rw [step_of_isBlank clock p hblank]
    exact ⟨rfl, rfl, rfl⟩
  | false =>
    have hevent := event_of_shows h hblank
    rw [he] at hevent
    cases hl : l.event with
    | ok e => rw [hl] at hevent; cases hevent
    | error cause =>
      rw [step_of_error clock p hblank hl]
      exact ⟨rfl, rfl, rfl⟩

/-! ## All lines -/

/-- The events of lines, with the numbers of the lines, counted from `number`. -/
def events (number : Nat) (raws : List (List UInt8)) : List (Nat × CapturedEvent) :=
  (raws.zipIdx number).filterMap fun (raw, number) => (event? raw).map fun e => (number, e)

theorem events_cons_some {raw : List UInt8} {e : CapturedEvent} (h : event? raw = some e)
    (number : Nat) (raws : List (List UInt8)) :
    events number (raw :: raws) = (number, e) :: events (number + 1) raws := by
  simp [events, h]

theorem events_cons_none {raw : List UInt8} (h : event? raw = none) (number : Nat)
    (raws : List (List UInt8)) : events number (raw :: raws) = events (number + 1) raws := by
  simp [events, h]

theorem events_append (number : Nat) (raws more : List (List UInt8)) :
    events number (raws ++ more) = events number raws ++ events (number + raws.length) more := by
  rw [events, List.zipIdx_append, List.filterMap_append]
  rfl

theorem events_of_none {raws : List (List UInt8)} (h : ∀ raw ∈ raws, event? raw = none)
    (number : Nat) : events number raws = [] := by
  induction raws generalizing number with
  | nil => rfl
  | cons raw raws ih =>
    rw [events_cons_none (h raw List.mem_cons_self)]
    exact ih (fun raw hraw => h raw (List.mem_cons_of_mem _ hraw)) _

/-- The events of lines with the times at which the lines are taken. -/
def timed (clock : Nat → Instant) (number : Nat) (raws : List (List UInt8)) :
    List (Instant × CapturedEvent) :=
  (events number raws).map fun (n, e) => (clock n, e)

theorem timed_cons_some {raw : List UInt8} {e : CapturedEvent} (h : event? raw = some e)
    (clock : Nat → Instant) (number : Nat) (raws : List (List UInt8)) :
    timed clock number (raw :: raws) = (clock number, e) :: timed clock (number + 1) raws := by
  rw [timed, events_cons_some h]
  rfl

theorem timed_cons_none {raw : List UInt8} (h : event? raw = none) (clock : Nat → Instant)
    (number : Nat) (raws : List (List UInt8)) :
    timed clock number (raw :: raws) = timed clock (number + 1) raws := by
  rw [timed, events_cons_none h]
  rfl

theorem timed_append (clock : Nat → Instant) (number : Nat) (raws more : List (List UInt8)) :
    timed clock number (raws ++ more) =
      timed clock number raws ++ timed clock (number + raws.length) more := by
  rw [timed, events_append, List.map_append]
  rfl

/-- Of the numbers of lines, only the clock takes notice. -/
theorem timed_congr {clock clock' : Nat → Instant} {raws : List (List UInt8)} {n m : Nat}
    (h : ∀ i < raws.length, clock (n + i) = clock' (m + i)) :
    timed clock n raws = timed clock' m raws := by
  induction raws generalizing n m with
  | nil => rfl
  | cons raw raws ih =>
    have hhead : clock n = clock' m := h 0 (Nat.succ_pos _)
    have htail : timed clock (n + 1) raws = timed clock' (m + 1) raws := by
      refine ih fun i hi => ?_
      have hnext := h (i + 1) (Nat.succ_lt_succ hi)
      rw [Nat.add_assoc, Nat.add_comm 1, hnext, Nat.add_assoc, Nat.add_comm 1]
    cases he : event? raw with
    | none => rw [timed_cons_none he, timed_cons_none he, htail]
    | some e => rw [timed_cons_some he, timed_cons_some he, hhead, htail]

/-- Lines that come to no event can be left out, but for the clock. -/
theorem timed_leave_out (clock : Nat → Instant) (front back : List (List UInt8))
    {gap : List (List UInt8)} (h : ∀ raw ∈ gap, event? raw = none) :
    timed (fun n => clock (if n ≤ front.length then n else n + gap.length)) 1 (front ++ back) =
      timed clock 1 (front ++ gap ++ back) := by
  have hgap : timed clock (1 + front.length) gap = [] := by
    rw [timed, events_of_none h]
    rfl
  rw [timed_append, timed_append, timed_append, hgap, List.append_nil, List.length_append]
  congr 1
  · refine timed_congr fun i hi => ?_
    rw [if_pos (by omega)]
  · refine timed_congr fun i hi => ?_
    rw [if_neg (by omega)]
    congr 1
    omega

/-- Lines hand their events to the adapters, in order, and do nothing else to them. -/
theorem steps_of_shows (clock : Nat → Instant) {raws : List (List UInt8)} {lines : List Line}
    (h : List.Forall₂ (fun raw l => l.Shows Limits.lineBytes raw) raws lines) (p : Progress σ) :
    (lines.foldl (step clock) p).adapters =
        (events (p.lineNumber + 1) raws).foldl (fun s (n, e) => s.append (clock n) e) p.adapters ∧
      (lines.foldl (step clock) p).summary.dispatched =
        p.summary.dispatched + (events (p.lineNumber + 1) raws).length := by
  induction h generalizing p with
  | nil => exact ⟨rfl, rfl⟩
  | @cons raw l raws lines hl _ ih =>
    obtain ⟨hadapters, hdispatched⟩ := ih (step clock p l)
    rw [List.foldl_cons, hadapters, hdispatched]
    cases he : event? raw with
    | some e =>
      rw [step_of_event hl he, events_cons_some he]
      refine ⟨rfl, ?_⟩
      simp only [Summary.dispatch, List.length_cons]
      omega
    | none =>
      obtain ⟨hnumber, hsame, hcount⟩ := step_of_no_event hl he clock p
      rw [hnumber, hsame, hcount, events_cons_none he]
      exact ⟨rfl, rfl⟩

/-- A replay of an input that does not fail hands the events of its lines to the adapters. -/
theorem run_spec (clock : Nat → Instant) {input : Source} (h : input.failure = none)
    (adapters : AdapterSet σ) :
    (run clock input adapters).2 = none ∧
      (run clock input adapters).1.adapters =
        (events 1 (Line.segments input.bytes)).foldl (fun s (n, e) => s.append (clock n) e)
          adapters ∧
      (run clock input adapters).1.summary.dispatched =
        (events 1 (Line.segments input.bytes)).length := by
  obtain ⟨hnone, hlines⟩ := Line.readAll_spec Limits.lineBytes h
  obtain ⟨hadapters, hdispatched⟩ := steps_of_shows clock hlines { adapters }
  exact ⟨hnone, hadapters, hdispatched.trans (Nat.zero_add _)⟩

end Replay

end LogOrigin
