import LogOrigin.Proofs.TraceNoise

/-!
# Traces without a header

Lines describe no throwable if and only if none of them is a header
(`Throwable.ofLines?_eq_none_iff`): no line heads a cause, and in front of the first suppressed
block there are only blank lines, indented lines and frames (`Headless`). Frames in front of the
header belong to no link, so a trace that begins with one describes whatever the lines behind it
describe (`Throwable.ofLines?_frame_first`).
-/

namespace LogOrigin.Throwable

open Text

/-! ## Frames -/

/-- The line of a frame has `at` in front. -/
theorem exists_trimStart_of_frame {line : String}
    (h : (StackFrame.ofTraceLine? line).isSome = true) :
    ∃ rest, trimStart line.toList = 'a' :: 't' :: rest := by
  cases hafter : StackFrame.afterAt line.toList with
  | none =>
    rw [StackFrame.ofTraceLine?, hafter] at h
    cases h
  | some body =>
    unfold StackFrame.afterAt at hafter
    split at hafter
    · next c rest heq => exact ⟨c :: rest, heq⟩
    · cases hafter

theorem not_headsCause_of_frame {line : String}
    (h : (StackFrame.ofTraceLine? line).isSome = true) : ¬ HeadsCause line := by
  obtain ⟨rest, hrest⟩ := exists_trimStart_of_frame h
  intro hcause
  obtain ⟨tail, hstart⟩ := hcause.exists_trimStart
  rw [hrest] at hstart
  cases hstart

theorem not_opensSuppressed_of_frame {line : String}
    (h : (StackFrame.ofTraceLine? line).isSome = true) : ¬ OpensSuppressed line := by
  obtain ⟨rest, hrest⟩ := exists_trimStart_of_frame h
  rw [opensSuppressed_iff, hrest]
  exact Bool.false_ne_true

/-! ## Lines that are no header -/

/-- A line that is no header where one is due: it is blank, indented, or shows a frame. -/
def Unheading (line : String) : Prop :=
  (∀ c ∈ line.toList, isBlank c = true) ∨ line.toList.head?.any isBlank = true ∨
    (StackFrame.ofTraceLine? line).isSome = true

instance (line : String) : Decidable (Unheading line) :=
  -- over the characters of the line, not over all that there are
  letI : Decidable (∀ c ∈ line.toList, isBlank c = true) := List.decidableBAll ..
  inferInstanceAs (Decidable (_ ∨ _ ∨ _))

/-- No line heads a cause, and all lines in front of the first suppressed block are no headers. -/
def Headless (lines : List String) : Prop :=
  (∀ l ∈ lines, ¬ HeadsCause l) ∧ ∀ l ∈ lines.takeWhile fun l => ¬ OpensSuppressed l, Unheading l

instance (lines : List String) : Decidable (Headless lines) :=
  inferInstanceAs (Decidable (_ ∧ _))

theorem headless_cons_of_opens {line : String} (h : OpensSuppressed line) (rest : List String) :
    Headless (line :: rest) ↔ ∀ l ∈ rest, ¬ HeadsCause l := by
  simp [Headless, h, not_headsCause h]

theorem headless_cons {line : String} (h : ¬ OpensSuppressed line) (rest : List String) :
    Headless (line :: rest) ↔ ¬ HeadsCause line ∧ Unheading line ∧ Headless rest := by
  simp only [Headless, List.forall_mem_cons, List.takeWhile_cons, h, not_false_eq_true,
    decide_true, if_true]
  constructor
  · rintro ⟨⟨hcause, hcauses⟩, hline, hlines⟩
    exact ⟨hcause, hline, hcauses, hlines⟩
  · rintro ⟨hcause, hline, hcauses, hlines⟩
    exact ⟨⟨hcause, hcauses⟩, hline, hlines⟩

/-! ## Links come and stay -/

theorem links_inside_ne_nil {s : TraceState} (h : s.links ≠ []) (line : String) :
    (s.inside line).links ≠ [] := by
  simp only [TraceState.inside]
  split
  · exact h
  split
  · exact h
  split
  · unfold TraceState.addFrame
    split
    · exact h
    · exact List.cons_ne_nil _ _
  · split
    · exact List.cons_ne_nil _ _
    · exact h

/-- What has been read of a trace is kept. -/
theorem links_run_ne_nil {s : TraceState} (h : s.links ≠ []) (lines : List String) :
    (s.run lines).links ≠ [] := by
  induction lines generalizing s with
  | nil => exact h
  | cons line rest ih =>
    rw [TraceState.run]
    split
    · exact ih h
    split
    · split
      · exact h
      · exact ih (List.cons_ne_nil _ _)
    · exact ih (links_inside_ne_nil h line)

/-- The head of a cause makes a link, unless there are too many already. -/
theorem links_run_cause {line : String} (h : HeadsCause line) (s : TraceState)
    (rest : List String) : (s.run (line :: rest)).links ≠ [] := by
  have hcause : causedBy.isPrefixOf line.toList = true := List.isPrefixOf_iff_prefix.mpr h
  have hblank : (trim line.toList).isEmpty = false := h.trim_isEmpty
  rw [TraceState.run]
  simp only [hblank, hcause, Bool.false_eq_true, if_false, if_true]
  split
  · next hfull =>
    intro hnil
    rw [hnil] at hfull
    exact absurd hfull (by decide)
  · exact links_run_ne_nil (List.cons_ne_nil _ _) rest

/-- In a suppressed block, only the head of a cause makes a link. -/
theorem links_run_suppressed_eq_nil_iff (lines : List String) :
    (TraceState.run ⟨[], true⟩ lines).links = [] ↔ ∀ l ∈ lines, ¬ HeadsCause l := by
  induction lines with
  | nil => simp [TraceState.run]
  | cons line rest ih =>
    rw [List.forall_mem_cons]
    by_cases hcause : HeadsCause line
    · exact iff_of_false (links_run_cause hcause _ rest) fun h => h.1 hcause
    · rw [run_of_inside hcause rfl, ih]
      exact (and_iff_right hcause).symm

/-- Before there is a link, lines that are no headers do nothing. -/
theorem run_unheading {line : String} (hline : Unheading line) (hcause : ¬ HeadsCause line)
    (hopens : ¬ OpensSuppressed line) (rest : List String) :
    TraceState.run {} (line :: rest) = TraceState.run {} rest := by
  by_cases hframe : (StackFrame.ofTraceLine? line).isSome = true
  · refine run_of_inside hcause ?_
    obtain ⟨frame, hframe⟩ := Option.isSome_iff_exists.mp hframe
    unfold TraceState.inside
    rw [if_neg Bool.false_ne_true, if_neg (mt (opensSuppressed_iff line).mpr hopens), hframe]
    rfl
  · rcases hline with hblank | hindent | hframe'
    · exact run_blank hblank
    · exact run_indented hindent (by simpa using hframe) hopens
    · exact absurd hframe' hframe

/-- A line in front that is not passed over is a header. -/
theorem links_run_header {line : String} (hline : ¬ Unheading line) (hcause : ¬ HeadsCause line)
    (hopens : ¬ OpensSuppressed line) (rest : List String) :
    (TraceState.run {} (line :: rest)).links ≠ [] := by
  obtain ⟨hblank, hindent, hframe⟩ : _ ∧ _ ∧ _ := by
    simpa only [Unheading, not_or] using hline
  have hinside : (TraceState.inside {} line).links ≠ [] := by
    have hnone : StackFrame.ofTraceLine? line = none := by simpa using hframe
    unfold TraceState.inside
    rw [if_neg Bool.false_ne_true, if_neg (mt (opensSuppressed_iff line).mpr hopens), hnone]
    simp [hindent]
  have hnotBlank : (trim line.toList).isEmpty = false := by
    obtain ⟨c, hc⟩ := not_forall.mp hblank
    obtain ⟨hmem, hc⟩ := Classical.not_imp.mp hc
    exact trim_ne_nil (by simpa using hc) hmem
  rw [TraceState.run, hnotBlank, isPrefixOf_causedBy hcause]
  exact links_run_ne_nil hinside rest

theorem links_run_eq_nil_iff (lines : List String) :
    (TraceState.run {} lines).links = [] ↔ Headless lines := by
  induction lines with
  | nil => simp [TraceState.run, Headless]
  | cons line rest ih =>
    by_cases hopens : OpensSuppressed line
    · rw [run_opens hopens, links_run_suppressed_eq_nil_iff, headless_cons_of_opens hopens]
    · rw [headless_cons hopens]
      by_cases hcause : HeadsCause line
      · exact iff_of_false (links_run_cause hcause _ rest) fun h => h.1 hcause
      · by_cases hline : Unheading line
        · rw [run_unheading hline hcause hopens, ih]
          exact ⟨fun h => ⟨hcause, hline, h⟩, fun h => h.2.2⟩
        · exact iff_of_false (links_run_header hline hcause hopens rest) fun h => hline h.2.1

/-! ## Whole traces -/

theorem ofLinks?_eq_none_iff {links : List Link} : ofLinks? links = none ↔ links = [] := by
  cases links <;> simp [ofLinks?]

/-- Lines describe no throwable just if none of them is a header. -/
theorem ofLines?_eq_none_iff (lines : List String) : ofLines? lines = none ↔ Headless lines := by
  unfold ofLines?
  rw [ofLinks?_eq_none_iff, List.reverse_eq_nil_iff, List.map_eq_nil_iff, links_run_eq_nil_iff]

/-- Lines in front that are no headers make no difference. -/
theorem ofLines?_append {front : List String}
    (h : ∀ l ∈ front, Unheading l ∧ ¬ HeadsCause l ∧ ¬ OpensSuppressed l) (rest : List String) :
    ofLines? (front ++ rest) = ofLines? rest := by
  induction front with
  | nil => rfl
  | cons l front ih =>
    obtain ⟨hline, hcause, hopens⟩ := h l (List.mem_cons_self ..)
    rw [← ih fun m hm => h m (List.mem_cons_of_mem _ hm), ofLines?, ofLines?, List.cons_append,
      run_unheading hline hcause hopens]

/-- A trace whose first line, but for blank ones, is that of a frame describes what the lines behind
it describe. So it describes no throwable, and a log4j event that has only these lines has none,
just if none of the lines behind is a header. -/
theorem ofLines?_frame_first {front : List String}
    (hblank : ∀ l ∈ front, ∀ c ∈ l.toList, isBlank c = true) {line : String}
    (hframe : (StackFrame.ofTraceLine? line).isSome = true) (rest : List String) :
    ofLines? (front ++ line :: rest) = ofLines? rest ∧
    (ofLines? (front ++ line :: rest) = none ↔ Headless rest) ∧
    ∀ e : Log4j.Event, e.throwable = none → e.throwableLines = some (front ++ line :: rest) →
      (e.anyThrowable = none ↔ Headless rest) := by
  have hsame : ofLines? (front ++ line :: rest) = ofLines? rest := by
    rw [List.append_cons]
    refine ofLines?_append (fun l hl => ?_) rest
    rcases List.mem_append.mp hl with hl | hl
    · have hl := hblank l hl
      refine ⟨.inl hl, ?_, ?_⟩
      · rintro ⟨tail, htail⟩
        cases hl 'C' (htail ▸ List.mem_cons_self ..)
      · rw [OpensSuppressed, trim_of_blank hl]
        decide
    · obtain rfl := List.mem_singleton.mp hl
      exact ⟨.inr (.inr hframe), not_headsCause_of_frame hframe,
        not_opensSuppressed_of_frame hframe⟩
  refine ⟨hsame, ?_, ?_⟩
  · rw [hsame, ofLines?_eq_none_iff]
  · intro e hnone hlines
    have hthrowable : e.anyThrowable = ofLines? (front ++ line :: rest) := by
      rw [Log4j.Event.anyThrowable, hnone, hlines]
      rfl
    rw [hthrowable, hsame, ofLines?_eq_none_iff]

/-- Behind a frame and a line that counts the frames left out there may be nothing, or a header of a
cause. -/
theorem ofLines?_frame_first_cut :
    let line := "\tat app.A.a(A.java:1)"
    (StackFrame.ofTraceLine? line).isSome = true ∧
      ofLines? ["", line, "\t... 2 more"] = none ∧
      ofLines? ["", line, "\t... 2 more", "Caused by: app.Root: z"] ≠ none := by
  intro line
  have hblank : ∀ l ∈ [""], ∀ c ∈ l.toList, isBlank c = true := by simp
  have hframe : (StackFrame.ofTraceLine? line).isSome = true := by decide
  obtain ⟨-, hnone, -⟩ := ofLines?_frame_first hblank hframe ["\t... 2 more"]
  obtain ⟨-, hcause, -⟩ :=
    ofLines?_frame_first hblank hframe ["\t... 2 more", "Caused by: app.Root: z"]
  exact ⟨hframe, hnone.mpr (by decide), fun h => absurd (hcause.mp h) (by decide)⟩

/-- A header is found below a frame. -/
theorem ofLines?_header_below :
    (StackFrame.ofTraceLine? "\tat app.A.a(A.java:1)").isSome = true ∧
      ofLines? ["\tat app.A.a(A.java:1)", "app.Boom: x"] =
        some (.mk "app.Boom" (some "x") [] none) := by
  exact ⟨by decide, rfl⟩

end LogOrigin.Throwable
