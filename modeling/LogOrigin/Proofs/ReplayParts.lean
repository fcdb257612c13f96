import LogOrigin.Instant.Epoch
import LogOrigin.Proofs.EventLines
import LogOrigin.Proofs.SinkMaps
import LogOrigin.Sink.Memory

/-!
# Replays in parts

An input that ends where a line does can be replayed by itself, and what comes behind it after that:
the adapters, the records that their sink receives, the counts and the faults are those of a replay
of the two as one (`Replay.run_append`). Whatever the sink does, the records that it receives follow
from the events of the input and their times.
-/

namespace LogOrigin

open Json.Byte (lineFeed)

namespace Replay

variable {σ τ : Type} [Sink σ] [Sink τ]

/-- A replay under way with its sink carried over by a map. -/
def Progress.mapSink (p : Progress σ) (φ : σ → τ) : Progress τ where
  lineNumber := p.lineNumber
  summary := p.summary
  adapters := p.adapters.mapSink φ

/-- The records that the sink of the adapters receives in the course of a replay. -/
def deliveries (clock : Nat → Instant) (input : Source) (s : AdapterSet σ) : List LogRecord :=
  SinkCall.records (run clock input s.watched).1.adapters.sink.calls

/-! ## Replays over another sink -/

theorem step_mapSink {φ : σ → τ} (hφ : Sink.Respects φ) (clock : Nat → Instant) (p : Progress σ)
    (l : Line) : step clock (p.mapSink φ) l = (step clock p l).mapSink φ := by
  cases hblank : l.isBlank with
  | true =>
    rw [step_of_isBlank clock p hblank, step_of_isBlank clock _ hblank]
    rfl
  | false =>
    cases he : l.event with
    | ok e =>
      have happend := AdapterSet.append_mapSink hφ p.adapters (clock (p.lineNumber + 1)) e
      rw [step_of_ok clock p hblank he, step_of_ok clock _ hblank he]
      simp only [Progress.mapSink, happend]
    | error cause =>
      rw [step_of_error clock p hblank he, step_of_error clock _ hblank he]
      rfl

theorem steps_mapSink {φ : σ → τ} (hφ : Sink.Respects φ) (clock : Nat → Instant)
    (lines : List Line) (p : Progress σ) :
    lines.foldl (step clock) (p.mapSink φ) = (lines.foldl (step clock) p).mapSink φ := by
  induction lines generalizing p with
  | nil => rfl
  | cons l lines ih => rw [List.foldl_cons, step_mapSink hφ, ih, List.foldl_cons]

theorem run_mapSink {φ : σ → τ} (hφ : Sink.Respects φ) (clock : Nat → Instant) (input : Source)
    (s : AdapterSet σ) :
    (run clock input (s.mapSink φ)).1 = (run clock input s).1.mapSink φ :=
  steps_mapSink hφ clock (Line.readAll Limits.lineBytes input).1 { adapters := s }

/-- What a watched sink receives in the course of a replay adds to what it had received. -/
theorem records_run (clock : Nat → Instant) (input : Source) (s : AdapterSet (WatchedSink σ)) :
    SinkCall.records (run clock input s).1.adapters.sink.calls =
      SinkCall.records s.sink.calls ++ deliveries clock input (s.mapSink WatchedSink.inner) := by
  have hrun := run_mapSink (WatchedSink.respects_behind s.sink.calls) clock input
    (s.mapSink WatchedSink.inner).watched
  rw [AdapterSet.behind_watched] at hrun
  rw [hrun]
  exact SinkCall.records_append _ _

/-! ## One part after the other -/

/-- Lines do the same to the adapters wherever they stand, but for the clock. -/
theorem steps_adapters {clock clock' : Nat → Instant} (lines : List Line) {p q : Progress σ}
    (hadapters : p.adapters = q.adapters)
    (hclock : ∀ i, clock (p.lineNumber + i) = clock' (q.lineNumber + i)) :
    (lines.foldl (step clock) p).adapters = (lines.foldl (step clock') q).adapters := by
  induction lines generalizing p q with
  | nil => exact hadapters
  | cons l lines ih =>
    have hclock' : ∀ i, clock (p.lineNumber + 1 + i) = clock' (q.lineNumber + 1 + i) := by
      intro i
      rw [Nat.add_assoc, hclock, Nat.add_assoc]
    rw [List.foldl_cons, List.foldl_cons]
    cases hblank : l.isBlank with
    | true =>
      rw [step_of_isBlank clock p hblank, step_of_isBlank clock' q hblank]
      exact ih hadapters hclock'
    | false =>
      cases he : l.event with
      | ok e =>
        rw [step_of_ok clock p hblank he, step_of_ok clock' q hblank he]
        exact ih (by simp only [hadapters, hclock 1]) hclock'
      | error cause =>
        rw [step_of_error clock p hblank he, step_of_error clock' q hblank he]
        exact ih hadapters hclock'

section Parts

variable (clock : Nat → Instant) {front back : List UInt8} (hcut : Line.EndsLine front)
  {x y z : Source} (hx : x.Delivers front) (hy : y.Delivers back) (hz : z.Delivers (front ++ back))

include hcut hx hy hz

theorem adapters_run_append (s : AdapterSet σ) :
    (run clock z s).1.adapters =
      (run (fun n => clock (front.count lineFeed + n)) y (run clock x s).1.adapters).1.adapters := by
  have hnumber := (run_summary clock hx s).1
  rw [Line.length_ofBytes hcut] at hnumber
  have hwhole : (run clock z s).1 =
      (Line.ofBytes Limits.lineBytes back).foldl (step clock) (run clock x s).1 := by
    rw [run_eq clock hz, run_eq clock hx, Line.ofBytes_append hcut]
    exact List.foldl_append
  rw [hwhole, run_eq _ hy]
  -- the lines above have been counted when the second part begins
  refine steps_adapters _ rfl fun i => ?_
  rw [hnumber, Nat.zero_add]

/-- The sink receives the records of the two parts. -/
theorem deliveries_append (s : AdapterSet σ) :
    deliveries clock z s =
      deliveries clock x s ++
        deliveries (fun n => clock (front.count lineFeed + n)) y (run clock x s).1.adapters := by
  have hinner : (run clock x s.watched).1.adapters.mapSink WatchedSink.inner =
      (run clock x s).1.adapters :=
    congrArg Progress.adapters (run_mapSink WatchedSink.respects_inner clock x s.watched).symm
  rw [deliveries, adapters_run_append clock hcut hx hy hz, records_run, hinner]
  rfl

end Parts

/-- The records that the sink receives follow from the events of the input and their times. -/
theorem deliveries_eq (clock : Nat → Instant) {input : Source} (h : input.failure = none)
    (s : AdapterSet σ) :
    deliveries clock input s =
      SinkCall.records ((timed clock 1 (Line.segments input.bytes)).foldl
        (fun s (now, e) => s.append now e) s.watched).sink.calls := by
  obtain ⟨-, hadapters, -⟩ := run_spec clock h s.watched
  rw [deliveries, hadapters, timed, List.foldl_map]

/-! ## Whole replays -/

theorem Summary.ofLines_append (lines more : List Line) :
    Summary.ofLines (lines ++ more) =
      { lines := (ofLines lines).lines + (ofLines more).lines
        dispatched := (ofLines lines).dispatched + (ofLines more).dispatched
        malformed := (ofLines lines).malformed + (ofLines more).malformed
        errors := (faults 1 lines ++
          (faults 1 more).map (SkippedLine.behind lines.length)).take Limits.reportedErrors } := by
  have hfaults : faults 1 (lines ++ more) =
      faults 1 lines ++ (faults 1 more).map (SkippedLine.behind lines.length) := by
    rw [faults_append, Nat.add_comm, faults_behind]
  simp only [ofLines, hfaults, List.countP_append, List.length_append, List.length_map]

/-- A replay of an input that does not fail comes to the same as replays of two parts of it one
after the other, where the first part ends where a line does: the adapters are the same, the sink
receives the same records, the counts add up, and the reported lines are the first of all that are
at fault, by their numbers in the whole. Every line that is not blank is handed over or at fault,
and what is reported of a line is why it is at fault. If lines are left out that come to no event,
the sink receives the same records. -/
theorem run_append (clock : Nat → Instant) {front back : List UInt8}
    (hcut : Line.EndsLine front) {x y z : Source} (hx : x.Delivers front) (hy : y.Delivers back)
    (hz : z.Delivers (front ++ back)) (s : AdapterSet σ) :
    let above := front.count lineFeed
    let later := fun n => clock (above + n)
    let first := run clock x s
    let second := run later y first.1.adapters
    let whole := run clock z s
    let summary := whole.1.summary
    let lines := Line.ofBytes Limits.lineBytes
    (first.2 = none ∧ second.2 = none ∧ whole.2 = none) ∧
    (run clock z s.watched).1.mapSink WatchedSink.inner = whole.1 ∧
    whole.1.adapters = second.1.adapters ∧
    deliveries clock z s = deliveries clock x s ++ deliveries later y first.1.adapters ∧
    summary =
      { lines := first.1.summary.lines + second.1.summary.lines
        dispatched := first.1.summary.dispatched + second.1.summary.dispatched
        malformed := first.1.summary.malformed + second.1.summary.malformed
        errors := (faults 1 (lines front) ++
          (faults 1 (lines back)).map (SkippedLine.behind above)).take Limits.reportedErrors } ∧
    (summary.lines = (lines (front ++ back)).countP fun l => !l.isBlank) ∧
    summary.lines = summary.dispatched + summary.malformed ∧
    summary.errors.length = min summary.malformed Limits.reportedErrors ∧
    (summary.errors.Pairwise fun l l' => l.number < l'.number) ∧
    (∀ skipped ∈ summary.errors, 1 ≤ skipped.number ∧
      ∃ l, (lines (front ++ back))[skipped.number - 1]? = some l ∧ l.isBlank = false ∧
        l.event = .error skipped.cause) ∧
    (∀ before gap after (other : Source), other.failure = none →
      Line.segments (front ++ back) = before ++ gap ++ after →
      Line.segments other.bytes = before ++ after →
      (∀ raw ∈ gap, event? raw = none) →
      deliveries (fun n => clock (if n ≤ before.length then n else n + gap.length)) other s =
        deliveries clock z s) := by
  intro above later first second whole summary lines
  have hfirst : first.1.summary = .ofLines (lines front) := (run_summary clock hx s).2
  have hsecond : second.1.summary = .ofLines (lines back) := (run_summary later hy _).2
  have hsummary : summary = .ofLines (lines (front ++ back)) := (run_summary clock hz s).2
  refine ⟨⟨congrArg Prod.snd (run_eq clock hx s), congrArg Prod.snd (run_eq later hy _),
      congrArg Prod.snd (run_eq clock hz s)⟩,
    (run_mapSink WatchedSink.respects_inner clock z s.watched).symm,
    adapters_run_append clock hcut hx hy hz s, deliveries_append clock hcut hx hy hz s,
    ?_, ?_, ?_, ?_, ?_, ?_, ?_⟩
  · have happend : lines (front ++ back) = lines front ++ lines back :=
      Line.ofBytes_append hcut _ back
    have hlength : (lines front).length = above := Line.length_ofBytes hcut _
    rw [hsummary, happend, Summary.ofLines_append, hfirst, hsecond, hlength]
  · rw [hsummary]
    rfl
  · rw [hsummary]
    exact length_faults 1 _
  · rw [hsummary, Nat.min_comm]
    exact List.length_take
  · rw [hsummary]
    exact (pairwise_faults 1 _).sublist (List.take_sublist _ _)
  · intro skipped hskipped
    rw [hsummary] at hskipped
    obtain ⟨hle, l, hl, hfault⟩ := line_of_mem_faults (List.mem_of_mem_take hskipped)
    exact ⟨hle, l, hl, Line.fault?_eq_some_iff.mp hfault⟩
  · intro before gap after other hother hwhole hothers hgap
    rw [deliveries_eq _ hother, deliveries_eq _ hz.2, hz.1, hwhole, hothers,
      timed_leave_out clock before after hgap]

/-- Of a blank line and two lines of noise, the two are reported by their numbers in the whole. -/
theorem run_append_noise :
    let whole := run (fun _ => .ofNanoseconds 0) ⟨[bytesOf "\nnoi", bytesOf "se\nmore"], none⟩
      (.ofConfig .default [] ({} : MemorySink))
    whole.2 = none ∧ whole.1.summary.lines = 2 ∧
      whole.1.summary.errors.map SkippedLine.number = [2, 3] := by
  have hwhole : Source.Delivers ⟨[bytesOf "\nnoi", bytesOf "se\nmore"], none⟩
      (bytesOf "\nnoise\n" ++ bytesOf "more") := ⟨by decide +kernel, rfl⟩
  obtain ⟨⟨-, -, hends⟩, -, -, -, hsummary, hlines, -⟩ :=
    run_append (fun _ => .ofNanoseconds 0)
      (show Line.EndsLine (bytesOf "\nnoise\n") from .inr (by decide +kernel)) (x := ⟨[bytesOf "\nnoise\n"], none⟩)
      (y := ⟨[bytesOf "more"], none⟩) ⟨by decide +kernel, rfl⟩ ⟨by decide +kernel, rfl⟩ hwhole
      (.ofConfig .default [] ({} : MemorySink))
  refine ⟨hends, hlines.trans (by decide +kernel), ?_⟩
  rw [congrArg Summary.errors hsummary]
  decide +kernel

end Replay

end LogOrigin
