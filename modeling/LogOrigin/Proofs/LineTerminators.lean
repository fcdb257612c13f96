import LogOrigin.Instant.Epoch
import LogOrigin.Proofs.LineCalls
import LogOrigin.Proofs.ReplaySummary
import LogOrigin.Sink.Memory

/-!
# Line feeds with and without a carriage return

A line that is ended by a carriage return and a line feed is read as if the line feed alone had
ended it, as long as it is shorter than the limit (`Line.alike_iff`). From the limit on, the
carriage return counts as a byte of the line: a line that is as long as the limit is then too long,
and of a longer one the length is greater by one.
-/

namespace LogOrigin

open Json.Byte (lineFeed carriageReturn)

namespace Line

section Stretches

variable {most : Nat} {content : List UInt8}

theorem withoutReturn_of_ne (h : content.getLast? ≠ some carriageReturn) :
    withoutReturn content = content := if_neg h

theorem withoutReturn_concat (content : List UInt8) :
    withoutReturn (content ++ [carriageReturn]) = content := by
  rw [withoutReturn, List.getLast?_concat, if_pos rfl, List.dropLast_concat]

/-- Of a line without a carriage return at its end, all bytes count. -/
theorem ofStretch_plain (h : content.getLast? ≠ some carriageReturn) :
    ofStretch most content true = ⟨content.length, content.take (most + 1)⟩ := by
  rcases Nat.lt_or_ge most content.length with hlong | hshort
  · exact ofStretch_of_lt hlong true
  · rw [ofStretch_true hshort, withoutReturn_of_ne h,
      List.take_of_length_le (Nat.le_succ_of_le hshort)]

/-- A carriage return does not count if it is within the limit. -/
theorem ofStretch_return_of_lt (h : content.length < most) :
    ofStretch most (content ++ [carriageReturn]) true =
      ⟨content.length, content.take (most + 1)⟩ := by
  have hshort : (content ++ [carriageReturn]).length ≤ most := by
    rw [List.length_append]
    exact h
  rw [ofStretch_true hshort, withoutReturn_concat, List.take_of_length_le (by omega)]

/-- A carriage return beyond the limit counts as a byte of the line. -/
theorem ofStretch_return_of_ge (h : most ≤ content.length) :
    ofStretch most (content ++ [carriageReturn]) true =
      ⟨content.length + 1, (content ++ [carriageReturn]).take (most + 1)⟩ := by
  have hlong : most < (content ++ [carriageReturn]).length := by
    rw [List.length_append]
    exact Nat.lt_succ_of_le h
  rw [ofStretch_of_lt hlong, List.length_append]
  rfl

/-- A line that is too long is at fault for its length. -/
theorem fault?_of_lt {l : Line} (h : Limits.lineBytes < l.length) :
    l.fault? = some (.tooLong l.length Limits.lineBytes) := by
  rw [fault?_eq_some_iff, isBlank, decide_eq_false (Nat.not_le_of_lt h), event, if_pos h]
  exact ⟨rfl, rfl⟩

end Stretches

end Line

namespace Replay

/-- A line at fault is the first that is reported, if it is the first line. -/
theorem head?_errors {σ : Type} [Sink σ] (clock : Nat → Instant) {input : Source}
    {bytes : List UInt8} (h : input.Delivers bytes) (adapters : AdapterSet σ) {l : Line}
    {lines : List Line} (hlines : Line.ofBytes Limits.lineBytes bytes = l :: lines)
    {cause : LineError} (hfault : l.fault? = some cause) :
    (run clock input adapters).1.summary.errors.head? = some ⟨1, cause⟩ := by
  rw [(run_summary clock h adapters).2, hlines, Summary.ofLines, faults, hfault]
  rfl

end Replay

/-- A line that a carriage return and a line feed end, and the same line ended by a line feed alone,
leave the same to be read, and the second has the length of its content. They are the same line if
and only if the content is shorter than the limit; if not, the carriage return counts as one more
byte. So a replay does not tell the two apart below the limit. A line of the length of the limit is
decoded if a line feed alone ends it, and is refused with a carriage return; a longer one is refused
either way, with lengths that differ by one. -/
theorem Line.alike_iff {content : List UInt8} (hfeed : lineFeed ∉ content)
    (hreturn : content.getLast? ≠ some carriageReturn) (more : List UInt8) {plain returned : Source}
    (hplain : plain.Delivers (content ++ lineFeed :: more))
    (hreturned : returned.Delivers (content ++ carriageReturn :: lineFeed :: more)) :
    (∀ most, ∃ l l' rest rest',
      read most plain = .ok (some (l, rest)) ∧ rest.bytes = more ∧
      read most returned = .ok (some (l', rest')) ∧ rest'.bytes = more ∧
      l.length = content.length ∧ l.kept = content.take (most + 1) ∧
      (l' = l ↔ content.length < most) ∧
      (most ≤ content.length → l'.length = content.length + 1 ∧
        l'.kept = (content ++ [carriageReturn]).take (most + 1))) ∧
    ∀ {σ : Type} [Sink σ] (clock : Nat → Instant) (adapters : AdapterSet σ),
      let replay := Replay.run clock plain adapters
      let replay' := Replay.run clock returned adapters
      (content.length < Limits.lineBytes → replay' = replay) ∧
      (Limits.lineBytes ≤ content.length → replay'.1.summary.errors.head? =
        some ⟨1, .tooLong (content.length + 1) Limits.lineBytes⟩) ∧
      (content.length = Limits.lineBytes → ∀ skipped ∈ replay.1.summary.errors,
        skipped.number = 1 → (CapturedEvent.ofLine content).mapError .malformed =
          .error skipped.cause) ∧
      (Limits.lineBytes < content.length → replay.1.summary.errors.head? =
        some ⟨1, .tooLong content.length Limits.lineBytes⟩) := by
  have hbytes : content ++ carriageReturn :: lineFeed :: more =
      (content ++ [carriageReturn]) ++ lineFeed :: more := by simp
  have hfeed' : lineFeed ∉ content ++ [carriageReturn] := by
    rw [List.mem_append, not_or]
    exact ⟨hfeed, by decide⟩
  rw [hbytes] at hreturned
  have hline : ∀ most, ofStretch most content true = ⟨content.length, content.take (most + 1)⟩ :=
    fun most => ofStretch_plain hreturn
  have hlines : ∀ most, ofBytes most (content ++ lineFeed :: more) =
      ofStretch most content true :: ofBytes most more :=
    fun most => ofBytes_of_lineFeed hfeed most more
  have hlines' : ∀ most, ofBytes most ((content ++ [carriageReturn]) ++ lineFeed :: more) =
      ofStretch most (content ++ [carriageReturn]) true :: ofBytes most more :=
    fun most => ofBytes_of_lineFeed hfeed' most more
  constructor
  · intro most
    obtain ⟨rest, hread, hrest⟩ := read_of_lineFeed most hplain.2 hfeed hplain.1
    obtain ⟨rest', hread', hrest'⟩ := read_of_lineFeed most hreturned.2 hfeed' hreturned.1
    refine ⟨_, _, rest, rest', hread, hrest, hread', hrest', ?_, ?_, ⟨fun heq => ?_, fun hlt => ?_⟩,
      fun hge => ?_⟩
    · rw [hline]
    · rw [hline]
    · by_contra hge
      rw [hline, ofStretch_return_of_ge (Nat.le_of_not_lt hge)] at heq
      exact absurd (congrArg Line.length heq) (Nat.succ_ne_self _)
    · rw [hline, ofStretch_return_of_lt hlt]
    · rw [ofStretch_return_of_ge hge]
      exact ⟨rfl, rfl⟩
  · intro σ _ clock adapters replay replay'
    refine ⟨fun hlt => ?_, fun hge => ?_, fun heq skipped hskipped hnumber => ?_, fun hlt => ?_⟩
    · simp only [replay, replay', Replay.run_eq clock hplain, Replay.run_eq clock hreturned]
      rw [hlines, hlines', hline, ofStretch_return_of_lt hlt]
    · refine Replay.head?_errors clock hreturned adapters (hlines' _) ?_
      rw [ofStretch_return_of_ge hge]
      exact fault?_of_lt (Nat.lt_succ_of_le hge)
    · rw [(Replay.run_summary clock hplain adapters).2, hlines] at hskipped
      obtain ⟨-, l, hl, hfault⟩ := Replay.line_of_mem_faults (List.mem_of_mem_take hskipped)
      rw [hnumber, hline] at hl
      cases hl
      obtain ⟨-, hevent⟩ := fault?_eq_some_iff.mp hfault
      rw [event, if_neg (by simp only; omega), List.take_of_length_le (by omega)] at hevent
      exact hevent
    · refine Replay.head?_errors clock hplain adapters (hlines _) ?_
      rw [hline]
      exact fault?_of_lt hlt

/-- At a limit of one byte, a letter has two bytes with a carriage return and one without, wherever
the input is cut. -/
theorem Line.alike_iff_letter :
    ∃ l l' rest rest',
      read 1 ⟨[[0x61], [lineFeed, 0x62]], none⟩ = .ok (some (l, rest)) ∧ rest.bytes = [0x62] ∧
      read 1 ⟨[[0x61, carriageReturn], [lineFeed, 0x62]], none⟩ = .ok (some (l', rest')) ∧
      rest'.bytes = [0x62] ∧ l.length = 1 ∧ l'.length = 2 := by
  obtain ⟨hread, -⟩ := @Line.alike_iff [0x61] (by decide) (by decide) [0x62]
    ⟨[[0x61], [lineFeed, 0x62]], none⟩ ⟨[[0x61, carriageReturn], [lineFeed, 0x62]], none⟩
    ⟨rfl, rfl⟩ ⟨rfl, rfl⟩
  obtain ⟨l, l', rest, rest', hplain, hrest, hreturned, hrest', hlength, -, -, hlonger⟩ := hread 1
  exact ⟨l, l', rest, rest', hplain, hrest, hreturned, hrest', hlength,
    (hlonger (Nat.le_refl 1)).1⟩

/-- Blanks that make a line as long as the limit are passed over if a line feed alone ends them, and
are too long with a carriage return. -/
theorem Replay.run_fullOfBlanks :
    let blanks := List.replicate Limits.lineBytes Json.Byte.space
    let adapters : AdapterSet MemorySink := .ofConfig .default [] {}
    let replay := fun bytes => (run (fun _ => .ofNanoseconds 0) ⟨[bytes], none⟩ adapters).1.summary
    lineFeed ∉ blanks ∧ blanks.getLast? ≠ some carriageReturn ∧
      (replay (blanks ++ [lineFeed])).lines = 0 ∧
      (replay (blanks ++ [carriageReturn, lineFeed])).errors =
        [⟨1, .tooLong (Limits.lineBytes + 1) Limits.lineBytes⟩] := by
  intro blanks adapters replay
  have hlength : blanks.length = Limits.lineBytes := List.length_replicate
  have hle := Nat.le_of_eq hlength
  have hge := Nat.le_of_eq hlength.symm
  have hmem : ∀ b ∈ blanks, b = Json.Byte.space := fun b hb => List.eq_of_mem_replicate hb
  have hfeed : lineFeed ∉ blanks := fun hin => absurd (hmem _ hin) (by decide)
  have hreturn : blanks.getLast? ≠ some carriageReturn :=
    fun hlast => absurd (hmem _ (List.mem_of_getLast? hlast)) (by decide)
  refine ⟨hfeed, hreturn, ?_, ?_⟩
  · have hdelivers : Source.Delivers ⟨[blanks ++ [lineFeed]], none⟩ (blanks ++ [lineFeed]) :=
      ⟨List.append_nil _, rfl⟩
    have hblank : (Line.ofStretch Limits.lineBytes blanks true).isBlank = true := by
      rw [Line.ofStretch_plain hreturn, List.take_of_length_le (Nat.le_succ_of_le hle),
        Line.isBlank, hlength, decide_eq_true (Nat.le_refl _), Bool.true_and, List.all_eq_true]
      intro b hb
      rw [hmem b hb]
      decide
    simp only [replay, (run_summary _ hdelivers adapters).2, Line.ofBytes_of_lineFeed hfeed,
      Summary.ofLines]
    rw [List.countP_cons_of_neg (by rw [hblank]; decide)]
    rfl
  · have hfeed' : lineFeed ∉ blanks ++ [carriageReturn] := by
      rw [List.mem_append, not_or]
      exact ⟨hfeed, by decide⟩
    have hdelivers : Source.Delivers ⟨[blanks ++ [carriageReturn, lineFeed]], none⟩
        ((blanks ++ [carriageReturn]) ++ lineFeed :: []) :=
      ⟨by rw [List.append_assoc]; exact List.append_nil _, rfl⟩
    have hfault := Line.fault?_of_lt
      (l := Line.ofStretch Limits.lineBytes (blanks ++ [carriageReturn]) true)
      (by rw [Line.ofStretch_return_of_ge hge]; exact Nat.lt_succ_of_le hge)
    rw [Line.ofStretch_return_of_ge hge, hlength] at hfault
    simp only [replay, (run_summary _ hdelivers adapters).2, Line.ofBytes_of_lineFeed hfeed',
      Summary.ofLines, Replay.faults, Line.ofStretch_return_of_ge hge]
    rw [hlength, hfault]
    rfl

end LogOrigin
