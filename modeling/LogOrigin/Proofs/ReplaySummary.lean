import LogOrigin.Proofs.SourceLines
import LogOrigin.Replay

/-!
# What a replay counts

The summary of a replay follows from the lines of its input (`Replay.steps_summary`): a line is
blank, holds an event, or is at fault. All faults of lines make up one list (`Replay.faults`), of
which the summary reports the beginning.
-/

namespace LogOrigin

/-- The input consists of these bytes, and can be read to its end. -/
def Source.Delivers (input : Source) (bytes : List UInt8) : Prop :=
  input.bytes = bytes ∧ input.failure = none

/-- Why a line is skipped, if it is. -/
def Line.fault? (l : Line) : Option LineError :=
  if l.isBlank then none
  else
    match l.event with
    | .ok _ => none
    | .error cause => some cause

theorem Line.fault?_eq_some_iff {l : Line} {cause : LineError} :
    l.fault? = some cause ↔ l.isBlank = false ∧ l.event = .error cause := by
  rw [fault?]
  cases hblank : l.isBlank with
  | true => simp
  | false => cases he : l.event <;> simp

/-- The line is neither blank nor at fault. -/
def Line.holdsEvent (l : Line) : Bool := !l.isBlank && l.event.toOption.isSome

/-- A skipped line of an input that others stand before. -/
def SkippedLine.behind (before : Nat) (l : SkippedLine) : SkippedLine :=
  { l with number := before + l.number }

namespace Replay

/-! ## One line -/

section Step

variable {σ : Type} [Sink σ] (clock : Nat → Instant) (p : Progress σ) {l : Line}

theorem step_of_isBlank (hblank : l.isBlank = true) :
    step clock p l = { p with lineNumber := p.lineNumber + 1 } := by
  simp only [step, hblank, if_true]

theorem step_of_ok (hblank : l.isBlank = false) {e : CapturedEvent} (he : l.event = .ok e) :
    step clock p l =
      ⟨p.lineNumber + 1, p.summary.dispatch, p.adapters.append (clock (p.lineNumber + 1)) e⟩ := by
  simp only [step, hblank, he, Bool.false_eq_true, if_false]

theorem step_of_error (hblank : l.isBlank = false) {cause : LineError}
    (he : l.event = .error cause) :
    step clock p l =
      ⟨p.lineNumber + 1, p.summary.skip ⟨p.lineNumber + 1, cause⟩, p.adapters⟩ := by
  simp only [step, hblank, he, Bool.false_eq_true, if_false]

end Step

/-! ## Faults -/

/-- All faults of lines, of which the first has the given number. -/
def faults (number : Nat) : List Line → List SkippedLine
  | [] => []
  | l :: lines =>
    (l.fault?.map fun cause => ⟨number, cause⟩).toList ++ faults (number + 1) lines

theorem faults_append (number : Nat) (lines more : List Line) :
    faults number (lines ++ more) =
      faults number lines ++ faults (number + lines.length) more := by
  induction lines generalizing number with
  | nil => rfl
  | cons l lines ih =>
    have hnumber : number + 1 + lines.length = number + (l :: lines).length := by
      rw [List.length_cons]
      omega
    rw [List.cons_append, faults, ih, hnumber, faults, List.append_assoc]

theorem faults_behind (before number : Nat) (lines : List Line) :
    faults (before + number) lines = (faults number lines).map (SkippedLine.behind before) := by
  induction lines generalizing number with
  | nil => rfl
  | cons l lines ih =>
    rw [faults, faults, List.map_append, Nat.add_assoc, ih]
    cases l.fault? <;> rfl

/-- A fault is that of the line with its number. -/
theorem line_of_mem_faults {number : Nat} {lines : List Line} {skipped : SkippedLine}
    (h : skipped ∈ faults number lines) :
    number ≤ skipped.number ∧ ∃ l, lines[skipped.number - number]? = some l ∧
      l.fault? = some skipped.cause := by
  induction lines generalizing number with
  | nil => cases h
  | cons l lines ih =>
    rw [faults, List.mem_append, Option.mem_toList, Option.map_eq_some_iff] at h
    obtain ⟨cause, hcause, rfl⟩ | hlater := h
    · refine ⟨Nat.le_refl _, l, ?_, hcause⟩
      rw [Nat.sub_self]
      rfl
    · obtain ⟨hle, l', hl', hfault⟩ := ih hlater
      refine ⟨by omega, l', ?_, hfault⟩
      have hindex : skipped.number - number = skipped.number - (number + 1) + 1 := by omega
      rw [hindex, List.getElem?_cons_succ]
      exact hl'

/-- Faults come in the order of their numbers. -/
theorem pairwise_faults (number : Nat) (lines : List Line) :
    (faults number lines).Pairwise fun l l' => l.number < l'.number := by
  induction lines generalizing number with
  | nil => exact .nil
  | cons l lines ih =>
    rw [faults]
    cases l.fault? with
    | none => exact ih (number + 1)
    | some cause =>
      refine .cons (fun later hlater => ?_) (ih (number + 1))
      exact (line_of_mem_faults hlater).1

/-- Every line that is not blank holds an event or is at fault. -/
theorem length_faults (number : Nat) (lines : List Line) :
    lines.countP (fun l => !l.isBlank) =
      lines.countP Line.holdsEvent + (faults number lines).length := by
  induction lines generalizing number with
  | nil => rfl
  | cons l lines ih =>
    have hrest := ih (number + 1)
    rw [List.countP_cons, List.countP_cons, faults, List.length_append, hrest]
    cases hblank : l.isBlank with
    | true => simp [Line.holdsEvent, Line.fault?, hblank]
    | false =>
      cases he : l.event with
      | ok e =>
        simp [Line.holdsEvent, Line.fault?, hblank, he, Except.toOption]
        omega
      | error cause =>
        simp [Line.holdsEvent, Line.fault?, hblank, he, Except.toOption]
        omega

/-! ## All lines -/

/-- The summary of a replay of lines. -/
def Summary.ofLines (lines : List Line) : Summary where
  lines := lines.countP fun l => !l.isBlank
  dispatched := lines.countP Line.holdsEvent
  malformed := (faults 1 lines).length
  errors := (faults 1 lines).take Limits.reportedErrors

/-- A list that is cut off when it is full is the beginning of the list that is not. -/
theorem take_of_full {α : Type} {most : Nat} {done : List α} (h : done.length ≤ most) (a : α)
    (more : List α) :
    ((if done.length < most then done ++ [a] else done) ++ more).take most =
      (done ++ a :: more).take most := by
  split
  next => rw [List.append_assoc, List.singleton_append]
  next hfull =>
    have hlength : done.length = most := by omega
    rw [List.take_left' hlength, List.take_left' hlength]

section Run

variable {σ : Type} [Sink σ] (clock : Nat → Instant)

/-- What lines add to the progress of a replay. -/
theorem steps_summary (lines : List Line) (p : Progress σ)
    (hp : p.summary.errors.length ≤ Limits.reportedErrors) :
    (lines.foldl (step clock) p).lineNumber = p.lineNumber + lines.length ∧
    (lines.foldl (step clock) p).summary =
      { lines := p.summary.lines + lines.countP fun l => !l.isBlank
        dispatched := p.summary.dispatched + lines.countP Line.holdsEvent
        malformed := p.summary.malformed + (faults (p.lineNumber + 1) lines).length
        errors := (p.summary.errors ++ faults (p.lineNumber + 1) lines).take
          Limits.reportedErrors } := by
  -- the reports are cut off line by line there, and all at once here
  induction lines generalizing p with
  | nil =>
    refine ⟨rfl, ?_⟩
    simp [faults, List.take_of_length_le hp]
  | cons l lines ih =>
    rw [List.foldl_cons]
    cases hblank : l.isBlank with
    | true =>
      rw [step_of_isBlank clock p hblank]
      obtain ⟨hnumber, hsummary⟩ := ih { p with lineNumber := p.lineNumber + 1 } hp
      rw [hnumber, hsummary]
      refine ⟨by rw [List.length_cons]; simp only; omega, ?_⟩
      simp [faults, Line.fault?, Line.holdsEvent, hblank]
    | false =>
      cases he : l.event with
      | ok e =>
        rw [step_of_ok clock p hblank he]
        obtain ⟨hnumber, hsummary⟩ := ih
          ⟨p.lineNumber + 1, p.summary.dispatch, p.adapters.append (clock (p.lineNumber + 1)) e⟩ hp
        rw [hnumber, hsummary]
        refine ⟨by rw [List.length_cons]; simp only; omega, ?_⟩
        simp [faults, Line.fault?, Line.holdsEvent, hblank, he, Summary.dispatch,
          Except.toOption, Nat.add_assoc, Nat.add_comm 1]
      | error cause =>
        rw [step_of_error clock p hblank he]
        have hp' : (p.summary.skip ⟨p.lineNumber + 1, cause⟩).errors.length ≤
            Limits.reportedErrors := by
          simp only [Summary.skip]
          split
          next hroom =>
            rw [List.length_append]
            exact hroom
          next => exact hp
        obtain ⟨hnumber, hsummary⟩ := ih
          ⟨p.lineNumber + 1, p.summary.skip ⟨p.lineNumber + 1, cause⟩, p.adapters⟩ hp'
        rw [hnumber, hsummary]
        refine ⟨by rw [List.length_cons]; simp only; omega, ?_⟩
        simp [faults, Line.fault?, Line.holdsEvent, hblank, he, Summary.skip, take_of_full hp,
          Except.toOption, Nat.add_assoc, Nat.add_comm 1]

/-- A replay of bytes takes their lines, one after the other. -/
theorem run_eq {input : Source} {bytes : List UInt8} (h : input.Delivers bytes)
    (adapters : AdapterSet σ) :
    run clock input adapters =
      ((Line.ofBytes Limits.lineBytes bytes).foldl (step clock) { adapters }, none) := by
  rw [run, Line.readAll_eq _ h.2, h.1]

/-- The lines of the input decide on the summary of its replay. -/
theorem run_summary {input : Source} {bytes : List UInt8} (h : input.Delivers bytes)
    (adapters : AdapterSet σ) :
    (run clock input adapters).1.lineNumber = (Line.ofBytes Limits.lineBytes bytes).length ∧
      (run clock input adapters).1.summary = .ofLines (Line.ofBytes Limits.lineBytes bytes) := by
  obtain ⟨hnumber, hsummary⟩ := steps_summary clock (Line.ofBytes Limits.lineBytes bytes)
    { adapters } (Nat.zero_le _)
  rw [run_eq clock h]
  refine ⟨hnumber.trans (Nat.zero_add _), hsummary.trans ?_⟩
  simp [Summary.ofLines]

end Run

end Replay

end LogOrigin
