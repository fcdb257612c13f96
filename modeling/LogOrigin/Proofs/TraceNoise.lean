import LogOrigin.Proofs.TraceRoundTrip
import Mathlib.Logic.Relation

/-!
# Lines that carry nothing

Between the lines of a trace there may be blank lines, indented lines that show no frame, and
suppressed blocks (`Noise`). However many of them are put into a trace, it describes the same
throwable (`Throwable.ofLines?_strewn`). So no frame and no cause of a suppressed exception is taken
for one of the exception in whose trace it stands.
-/

namespace LogOrigin.Throwable

open Text

/-! ## Noise -/

/-- A line heads a cause. -/
def HeadsCause (line : String) : Prop := causedBy <+: line.toList

/-- A line opens a suppressed block, however far it is indented. -/
def OpensSuppressed (line : String) : Prop := suppressedMark <+: trim line.toList

instance (line : String) : Decidable (HeadsCause line) :=
  inferInstanceAs (Decidable (causedBy <+: line.toList))

instance (line : String) : Decidable (OpensSuppressed line) :=
  inferInstanceAs (Decidable (suppressedMark <+: trim line.toList))

/-- Lines that carry nothing if the lines `behind` follow them. -/
inductive Noise (behind : List String) : List String → Prop
  | blank {line : String} (hblank : ∀ c ∈ line.toList, isBlank c = true) : Noise behind [line]
  | indented {line : String} (hindent : line.toList.head?.any isBlank = true)
      (hframe : StackFrame.ofTraceLine? line = none) (hopens : ¬ OpensSuppressed line) :
      Noise behind [line]
  /-- A suppressed block goes on to the next cause or to the end. -/
  | suppressed {line : String} {block : List String} (hopens : OpensSuppressed line)
      (hblock : ∀ l ∈ block, ¬ HeadsCause l) (hbehind : ∀ l ∈ behind.head?, HeadsCause l) :
      Noise behind (line :: block)

/-- Noise is put into lines at one place. -/
inductive Strewn : List String → List String → Prop
  | put (before : List String) {noise behind : List String} (h : Noise behind noise) :
      Strewn (before ++ behind) (before ++ (noise ++ behind))

/-! ## What lines begin with -/

theorem trim_of_blank {cs : List Char} (h : ∀ c ∈ cs, isBlank c = true) : trim cs = [] := by
  have hstart : trimStart cs = [] := List.dropWhile_eq_nil_iff.mpr h
  rw [trim, hstart]
  rfl

/-- Only blanks are trimmed at the end. -/
theorem exists_trimEnd (cs : List Char) :
    ∃ tail, cs = trimEnd cs ++ tail ∧ ∀ c ∈ tail, isBlank c = true := by
  refine ⟨(cs.reverse.takeWhile isBlank).reverse, ?_, ?_⟩
  · rw [trimEnd, ← List.reverse_append, List.takeWhile_append_dropWhile, List.reverse_reverse]
  · intro c hc
    exact List.mem_takeWhile_imp (List.mem_reverse.mp hc)

/-- Trimming the end makes no difference to what a text begins with, unless that ends in a blank. -/
theorem prefix_trimEnd_iff {mark : List Char} (hmark : ∀ c ∈ mark.getLast?, isBlank c = false)
    (cs : List Char) : mark <+: trimEnd cs ↔ mark <+: cs := by
  obtain ⟨tail, hcs, htail⟩ := exists_trimEnd cs
  constructor
  · intro h
    rw [hcs]
    exact h.trans (List.prefix_append ..)
  · intro h
    rw [hcs] at h
    rcases List.prefix_or_prefix_of_prefix h (List.prefix_append ..) with hshort | ⟨more, hlong⟩
    · exact hshort
    · -- the mark would end within the blanks
      have hmore : more <+: tail := by
        rw [← hlong] at h
        exact (List.prefix_append_right_inj _).mp h
      rcases List.eq_nil_or_concat more with rfl | ⟨init, c, rfl⟩
      · rw [List.append_nil] at hlong
        exact hlong ▸ List.prefix_rfl
      · have hc : isBlank c = true := htail c (hmore.subset (by simp))
        rw [hmark c (by rw [← hlong]; simp)] at hc
        cases hc

theorem opensSuppressed_iff (line : String) :
    OpensSuppressed line ↔ suppressedMark.isPrefixOf (trimStart line.toList) = true := by
  have hmark : ∀ c ∈ suppressedMark.getLast?, isBlank c = false := by
    intro c hc
    have hlast : suppressedMark.getLast? = some ':' := by decide
    rw [hlast] at hc
    cases hc
    decide
  rw [OpensSuppressed, trim, List.isPrefixOf_iff_prefix]
  exact prefix_trimEnd_iff hmark _

/-- The head of a cause is not indented. -/
theorem HeadsCause.exists_trimStart {line : String} (h : HeadsCause line) :
    ∃ rest, trimStart line.toList = causedBy ++ rest := by
  obtain ⟨rest, hrest⟩ := h
  rw [← hrest]
  exact ⟨rest, List.dropWhile_cons_of_neg (by decide)⟩

theorem HeadsCause.trim_isEmpty {line : String} (h : HeadsCause line) :
    (trim line.toList).isEmpty = false := by
  obtain ⟨rest, hrest⟩ := h
  refine trim_ne_nil (c := 'C') (by decide) ?_
  rw [← hrest]
  exact List.mem_cons_self ..

theorem not_headsCause {line : String} (h : OpensSuppressed line) : ¬ HeadsCause line := by
  intro hcause
  obtain ⟨rest, hstart⟩ := hcause.exists_trimStart
  rw [opensSuppressed_iff, hstart] at h
  cases h

theorem isPrefixOf_causedBy {line : String} (h : ¬ HeadsCause line) :
    causedBy.isPrefixOf line.toList = false := by
  rw [Bool.eq_false_iff]
  intro hcause
  exact h (List.isPrefixOf_iff_prefix.mp hcause)

/-! ## One line -/

variable {s : TraceState} {line : String} {rest : List String}

theorem run_blank (h : ∀ c ∈ line.toList, isBlank c = true) : s.run (line :: rest) = s.run rest := by
  rw [TraceState.run, trim_of_blank h]
  rfl

/-- A line that heads no cause, whether it is blank or not. -/
theorem run_of_inside (hcause : ¬ HeadsCause line) (hinside : s.inside line = s) :
    s.run (line :: rest) = s.run rest := by
  rw [TraceState.run, isPrefixOf_causedBy hcause, hinside]
  simp

/-- An indented line that shows no frame is no header either. -/
theorem run_indented (hindent : line.toList.head?.any isBlank = true)
    (hframe : StackFrame.ofTraceLine? line = none) (hopens : ¬ OpensSuppressed line) :
    s.run (line :: rest) = s.run rest := by
  have hcause : ¬ HeadsCause line := by
    rintro ⟨tail, htail⟩
    rw [← htail] at hindent
    cases hindent
  refine run_of_inside hcause ?_
  unfold TraceState.inside
  by_cases hs : s.suppressed = true
  · rw [if_pos hs]
  · rw [if_neg hs, if_neg (mt (opensSuppressed_iff line).mpr hopens), hframe]
    simp [hindent]

/-- Behind the line that opens a suppressed block, it is passed over. -/
theorem run_opens (h : OpensSuppressed line) :
    s.run (line :: rest) = TraceState.run ⟨s.links, true⟩ rest := by
  have hblank : (trim line.toList).isEmpty = false := by
    rw [List.isEmpty_eq_false_iff]
    intro hnil
    rw [OpensSuppressed, hnil, List.prefix_nil] at h
    cases h
  have hinside : s.inside line = ⟨s.links, true⟩ := by
    obtain ⟨links, suppressed⟩ := s
    cases suppressed with
    | false =>
      show (if suppressedMark.isPrefixOf (trimStart line.toList) then _ else _) = _
      rw [if_pos ((opensSuppressed_iff line).mp h)]
    | true => rfl
  rw [TraceState.run, hblank, isPrefixOf_causedBy (not_headsCause h), hinside]
  rfl

/-! ## Suppressed blocks -/

/-- A suppressed block is passed over, whatever its lines look like. -/
theorem run_block {block : List String} (h : ∀ l ∈ block, ¬ HeadsCause l) (links : List Link) :
    TraceState.run ⟨links, true⟩ (block ++ rest) = TraceState.run ⟨links, true⟩ rest := by
  induction block with
  | nil => rfl
  | cons l block ih =>
    rw [List.cons_append, run_of_inside (h l (List.mem_cons_self ..)) rfl]
    exact ih fun m hm => h m (List.mem_cons_of_mem _ hm)

/-- A cause ends a suppressed block, and the end of the lines does as well. -/
theorem links_run_suppressed {behind : List String} (h : ∀ l ∈ behind.head?, HeadsCause l)
    (s : TraceState) :
    (TraceState.run ⟨s.links, true⟩ behind).links = (s.run behind).links := by
  cases behind with
  | nil => rfl
  | cons l behind =>
    have hcause : causedBy.isPrefixOf l.toList = true := List.isPrefixOf_iff_prefix.mpr (h l rfl)
    have hblank : (trim l.toList).isEmpty = false := (h l rfl).trim_isEmpty
    unfold TraceState.run
    simp only [hblank, hcause, Bool.false_eq_true, if_false, if_true]
    split <;> rfl

/-! ## Whole traces -/

/-- Noise leaves the links as they would be without it. -/
theorem Noise.links_run {noise behind : List String} (h : Noise behind noise) (s : TraceState) :
    (s.run (noise ++ behind)).links = (s.run behind).links := by
  cases h with
  | blank hblank =>
    show (s.run (_ :: behind)).links = _
    rw [run_blank hblank]
  | indented hindent hframe hopens =>
    show (s.run (_ :: behind)).links = _
    rw [run_indented hindent hframe hopens]
  | suppressed hopens hblock hbehind =>
    rw [List.cons_append, run_opens hopens, run_block hblock]
    exact links_run_suppressed hbehind s

/-- What comes to the same links from every state does so behind any lines, also where the reading
has ended before. -/
theorem links_run_append {x y : List String} (h : ∀ s, (TraceState.run s x).links = (s.run y).links)
    (before : List String) (s : TraceState) :
    (s.run (before ++ x)).links = (s.run (before ++ y)).links := by
  induction before generalizing s with
  | nil => exact h s
  | cons l before ih =>
    rw [List.cons_append, List.cons_append, TraceState.run, TraceState.run]
    split
    · exact ih s
    · split
      · split
        · rfl
        · exact ih _
      · exact ih _

theorem Strewn.ofLines?_eq {lines lines' : List String} (h : Strewn lines lines') :
    ofLines? lines' = ofLines? lines := by
  obtain ⟨before, hnoise⟩ := h
  unfold ofLines?
  rw [links_run_append hnoise.links_run before]

/-- However often noise is put into the lines of a trace, at whatever places, they describe the same
throwable, or none as before. -/
theorem ofLines?_strewn {lines lines' : List String}
    (h : Relation.ReflTransGen Strewn lines lines') : ofLines? lines' = ofLines? lines := by
  induction h with
  | refl => rfl
  | tail _ hstep ih => exact hstep.ofLines?_eq.trans ih

/-- A suppressed exception with a cause of its own, and a line that counts the frames left out. -/
theorem ofLines?_strewn_suppressed :
    let trace := ["app.Boom: x", "\tat app.A.a(A.java:1)", "Caused by: app.Root: z"]
    let noisy := ["app.Boom: x", "\tat app.A.a(A.java:1)", "\tSuppressed: app.Close: y",
      "\t\tat app.C.close(C.java:9)", "\tCaused by: app.Lost", "Caused by: app.Root: z",
      "\t... 2 more"]
    Relation.ReflTransGen Strewn trace noisy ∧ ofLines? noisy = ofLines? trace := by
  intro trace noisy
  have hblock : Noise ["Caused by: app.Root: z"]
      ["\tSuppressed: app.Close: y", "\t\tat app.C.close(C.java:9)", "\tCaused by: app.Lost"] :=
    .suppressed (by decide) (by decide) (by decide)
  have hcount : Noise [] ["\t... 2 more"] :=
    .indented (by decide) (by decide) (by decide)
  have hstrewn : Relation.ReflTransGen Strewn trace noisy := by
    have hfirst := Strewn.put ["app.Boom: x", "\tat app.A.a(A.java:1)"] hblock
    refine .tail (.single hfirst) ?_
    exact Strewn.put ["app.Boom: x", "\tat app.A.a(A.java:1)", "\tSuppressed: app.Close: y",
      "\t\tat app.C.close(C.java:9)", "\tCaused by: app.Lost", "Caused by: app.Root: z"] hcount
  exact ⟨hstrewn, ofLines?_strewn hstrewn⟩

end LogOrigin.Throwable
