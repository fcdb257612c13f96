import LogOrigin.Instant.Epoch
import LogOrigin.Log4j
import LogOrigin.Proofs.TraceLine
import Mathlib.Data.List.TakeWhile

/-!
# Throwables and the traces that show them

The trace of a throwable (`Throwable.traceLines`) is read back as the throwable, cut behind the
deepest link that is kept. Attribution looks no deeper, so it makes no difference whether a log4j
event carries its throwable as an object or as the lines of its trace.
-/

namespace LogOrigin

namespace Throwable

open Text

/-! ## The trace of a throwable -/

/-- The lines of the frames of a throwable. -/
def frameLines (t : Throwable) : List String := t.frames.map fun frame => "\tat " ++ frame.display

/-- The lines of a throwable that caused another. -/
def causeLines (t : Throwable) : List String := ("Caused by: " ++ t.display) :: t.frameLines

/-- The trace of a throwable and its causes. -/
def traceLines (t : Throwable) : List String :=
  t.display :: (t.frameLines ++ t.chain.tail.flatMap causeLines)

/-- The outermost link of a throwable. -/
def link (t : Throwable) : Link := ⟨t.typeName, t.message, t.frames⟩

/-- The throwable with at most `n` causes. -/
def withCauses : Nat → Throwable → Throwable
  | _, mk t m fs none => mk t m fs none
  | 0, mk t m fs (some _) => mk t m fs none
  | n + 1, mk t m fs (some c) => mk t m fs (some (c.withCauses n))

/-- The throwable cut behind the deepest link that is kept. -/
def cut (t : Throwable) : Throwable := t.withCauses (Limits.causeDepth - 1)

/-- Characters of type names. -/
def isTypeChar (c : Char) : Bool := !isBlank c && c != ':'

/-- A throwable whose type can be told from what stands behind it. -/
structure NamesType (t : Throwable) : Prop where
  nonempty : t.typeName ≠ ""
  chars : ∀ c ∈ t.typeName.toList, isTypeChar c = true

/-- A throwable whose types and frames can be told in its trace. -/
structure Shown (t : Throwable) : Prop where
  typeName : ∀ c ∈ t.chain, c.NamesType
  frames : ∀ c ∈ t.chain, ∀ frame ∈ c.frames, frame.Shown
  outermost : t.typeName ≠ "Suppressed"

theorem chain_eq (t : Throwable) : t.chain = t :: t.chain.tail := by
  obtain ⟨name, m, fs, _ | c⟩ := t <;> simp [chain]

/-- Cutting keeps the outermost links as they are. -/
theorem chain_withCauses (n : Nat) :
    (t : Throwable) → (t.withCauses n).chain.map link = (t.chain.map link).take (n + 1)
  | mk name m fs none => by simp [withCauses, chain]
  | mk name m fs (some c) => by
    cases n with
    | zero => simp [withCauses, chain, link, typeName, message, frames]
    | succ n =>
      have ih := chain_withCauses n c
      simp [withCauses, chain, ih]
      rfl

theorem chain_cut (t : Throwable) :
    t.cut.chain.map link = (t.chain.map link).take Limits.causeDepth :=
  chain_withCauses _ t

/-- A throwable is the throwable of its links. -/
theorem ofLinks?_chain : (t : Throwable) → ofLinks? (t.chain.map link) = some t
  | mk name m fs none => rfl
  | mk name m fs (some c) => by
    have ih := ofLinks?_chain c
    simp only [chain, List.map_cons, ofLinks?, ih]
    rfl

/-! ## Headers -/

/-- What stands behind the type in the header of a throwable. -/
def headerTail (t : Throwable) : List Char :=
  match t.message with
  | some m => ':' :: ' ' :: m.toList
  | none => []

theorem toList_display (t : Throwable) :
    t.display.toList = t.typeName.toList ++ t.headerTail := by
  cases h : t.message <;> simp [display, headerTail, h]

theorem cutAtColon_append {cs : List Char} (h : ':' ∉ cs) (before rest : List Char) :
    cutAtColon before (cs ++ ':' :: ' ' :: rest) = some (before.reverse ++ cs, rest) := by
  induction cs generalizing before with
  | nil => simp [cutAtColon]
  | cons c cs ih =>
    rw [List.mem_cons, not_or] at h
    rw [List.cons_append, cutAtColon, ih h.2]
    · simp
    · intro rest' heq
      exact absurd heq.symm h.1

theorem cutAtColon_of_not_mem {cs : List Char} (h : ':' ∉ cs) (before : List Char) :
    cutAtColon before cs = none := by
  induction cs generalizing before with
  | nil => rfl
  | cons c cs ih =>
    rw [List.mem_cons, not_or] at h
    rw [cutAtColon, ih h.2]
    intro rest' heq
    exact absurd heq.symm h.1

theorem dropWhile_eq_self {p : Char → Bool} {cs : List Char} (h : ∀ c ∈ cs, p c = false) :
    cs.dropWhile p = cs := by
  cases cs with
  | nil => rfl
  | cons c cs => rw [List.dropWhile_cons_of_neg (by simp [h c (List.mem_cons_self ..)])]

/-- Without blanks there is nothing to trim. -/
theorem trim_eq_self {cs : List Char} (h : ∀ c ∈ cs, isBlank c = false) : trim cs = cs := by
  have hrev : ∀ c ∈ cs.reverse, isBlank c = false := fun c hc => h c (List.mem_reverse.mp hc)
  rw [trim, trimStart, dropWhile_eq_self h, trimEnd, dropWhile_eq_self hrev, List.reverse_reverse]

section Header

variable {t : Throwable} (h : t.NamesType)

include h

theorem NamesType.takeWhile_display : t.display.toList.takeWhile isTypeChar = t.typeName.toList := by
  rw [toList_display, List.takeWhile_append_of_pos h.chars]
  have htail : t.headerTail.takeWhile isTypeChar = [] := by
    unfold headerTail
    split
    · exact List.takeWhile_cons_of_neg (by decide)
    · rfl
  rw [htail, List.append_nil]

theorem NamesType.dropWhile_display : t.display.toList.dropWhile isTypeChar = t.headerTail := by
  rw [toList_display, List.dropWhile_append_of_pos h.chars]
  unfold headerTail
  split
  · exact List.dropWhile_cons_of_neg (by decide)
  · rfl

theorem NamesType.isBlank_false {c : Char} (hc : c ∈ t.typeName.toList) : isBlank c = false := by
  have := h.chars c hc
  rw [isTypeChar, Bool.and_eq_true] at this
  simpa using this.1

theorem NamesType.colon_not_mem : ':' ∉ t.typeName.toList := by
  intro hc
  cases h.chars _ hc

/-- A header begins with a character of its type. -/
theorem NamesType.exists_cons :
    ∃ c rest, t.display.toList = c :: rest ∧ isBlank c = false := by
  obtain ⟨c, cs, hcs⟩ := List.exists_cons_of_ne_nil (mt String.toList_eq_nil_iff.mp h.nonempty)
  refine ⟨c, cs ++ t.headerTail, by rw [toList_display, hcs]; rfl, ?_⟩
  exact h.isBlank_false (hcs ▸ List.mem_cons_self ..)

theorem NamesType.trimStart_display : trimStart t.display.toList = t.display.toList := by
  obtain ⟨c, rest, heq, hc⟩ := h.exists_cons
  rw [heq, trimStart, List.dropWhile_cons_of_neg (by simp [hc])]

/-- A header has the form of no cause, as its type has no blank. -/
theorem NamesType.not_causedBy : causedBy.isPrefixOf t.display.toList = false := by
  rw [Bool.eq_false_iff]
  intro hprefix
  obtain ⟨rest, hrest⟩ := List.isPrefixOf_iff_prefix.mp hprefix
  have htail := h.dropWhile_display
  rw [← hrest] at htail
  have hblank : (causedBy ++ rest).dropWhile isTypeChar = ' ' :: 'b' :: 'y' :: ':' :: rest := rfl
  rw [hblank] at htail
  unfold headerTail at htail
  split at htail <;> cases htail

/-- The header of a throwable that is not a suppressed block has not the form of one. -/
theorem NamesType.not_suppressed (hname : t.typeName ≠ "Suppressed") :
    suppressedMark.isPrefixOf t.display.toList = false := by
  rw [Bool.eq_false_iff]
  intro hprefix
  obtain ⟨rest, hrest⟩ := List.isPrefixOf_iff_prefix.mp hprefix
  have htype := h.takeWhile_display
  rw [← hrest] at htype
  have hmark : (suppressedMark ++ rest).takeWhile isTypeChar = "Suppressed".toList := rfl
  rw [hmark] at htype
  exact hname (String.toList_inj.mp htype.symm)

/-- A header is no frame line, as `at` in front of a blank is no type. -/
theorem NamesType.not_frame : StackFrame.ofTraceLine? t.display = none := by
  have hafter : StackFrame.afterAt t.display.toList = none := by
    rw [StackFrame.afterAt, h.trimStart_display]
    split
    · rename_i c rest heq
      split
      · rename_i hblank
        have htail := h.dropWhile_display
        have hat : ('a' :: 't' :: c :: rest).dropWhile isTypeChar = c :: rest := by
          rw [List.dropWhile_cons_of_pos (by decide), List.dropWhile_cons_of_pos (by decide),
            List.dropWhile_cons_of_neg (by simp [isTypeChar, hblank])]
        rw [heq, hat] at htail
        unfold headerTail at htail
        split at htail
        · cases htail; cases hblank
        · cases htail
      · rfl
    · rfl
  simp [StackFrame.ofTraceLine?, hafter]

/-- A header is read back as the type and the message that it shows. -/
theorem NamesType.header_display : header t.display.toList = ⟨t.typeName, t.message, []⟩ := by
  have htrim : trim t.typeName.toList = t.typeName.toList := trim_eq_self fun c => h.isBlank_false
  rw [toList_display]
  cases hm : t.message with
  | some m =>
    simp only [header, headerTail, hm, cutAtColon_append h.colon_not_mem, List.reverse_nil,
      List.nil_append, htrim, String.ofList_toList]
  | none =>
    have hcolon : ∀ c ∈ t.typeName.toList.reverse, (c == ':') = false := fun c hc =>
      beq_eq_false_iff_ne.mpr fun heq => h.colon_not_mem (heq ▸ List.mem_reverse.mp hc)
    simp only [header, headerTail, hm, List.append_nil, cutAtColon_of_not_mem h.colon_not_mem,
      htrim, dropWhile_eq_self hcolon, List.reverse_reverse, String.ofList_toList]

end Header

/-! ## Reading a trace -/

/-- The outermost link of a throwable as it is kept while a trace is read. -/
def readLink (t : Throwable) : Link := ⟨t.typeName, t.message, t.frames.reverse⟩

/-- A line that is not blank, heads no cause and comes outside a suppressed block. -/
theorem run_inside {links : List Link} {line : String} {rest : List String}
    (hblank : (trim line.toList).isEmpty = false)
    (hcause : causedBy.isPrefixOf line.toList = false) :
    TraceState.run ⟨links, false⟩ (line :: rest) =
      (TraceState.inside ⟨links, false⟩ line).run rest := by
  rw [TraceState.run]
  simp only [hblank, hcause, Bool.false_eq_true, if_false]

/-- A text with a character that is not blank is not blank. -/
theorem trim_ne_nil {c : Char} {cs : List Char} (hc : isBlank c = false) (hmem : c ∈ cs) :
    (trim cs).isEmpty = false := by
  have hstart : c ∈ trimStart cs := by
    rw [← List.takeWhile_append_dropWhile (p := isBlank) (l := cs), List.mem_append] at hmem
    rcases hmem with hmem | hmem
    · rw [List.mem_takeWhile_imp hmem] at hc
      cases hc
    · exact hmem
  rw [List.isEmpty_eq_false_iff, trim, trimEnd, Ne, List.reverse_eq_nil_iff,
    List.dropWhile_eq_nil_iff]
  intro hall
  rw [hall c (List.mem_reverse.mpr hstart)] at hc
  cases hc

/-- A frame line adds its frame to the last link. -/
theorem run_frameLine {frame : StackFrame} (h : frame.Shown) (l : Link) (links : List Link)
    (rest : List String) :
    TraceState.run ⟨l :: links, false⟩ (("\tat " ++ frame.display) :: rest) =
      TraceState.run ⟨{ l with frames := frame :: l.frames } :: links, false⟩ rest := by
  have hline : ("\tat " ++ frame.display).toList =
      '\t' :: 'a' :: 't' :: ' ' :: frame.display.toList := by simp
  have hstart : trimStart ("\tat " ++ frame.display).toList =
      'a' :: 't' :: ' ' :: frame.display.toList := by
    rw [hline, trimStart, List.dropWhile_cons_of_pos (by decide),
      List.dropWhile_cons_of_neg (by decide)]
  rw [run_inside]
  · have hmark : suppressedMark.isPrefixOf (trimStart ("\tat " ++ frame.display).toList) = false := by
      rw [hstart]; rfl
    simp only [TraceState.inside, hmark, Bool.false_eq_true, if_false,
      StackFrame.ofTraceLine?_display h]
    rfl
  · exact trim_ne_nil (c := 'a') (by decide) (by rw [hline]; simp)
  · rw [hline]; rfl

/-- The frame lines of a throwable add its frames to the last link. -/
theorem run_frameLines {frames : List StackFrame} (h : ∀ frame ∈ frames, frame.Shown) (l : Link)
    (links : List Link) (rest : List String) :
    TraceState.run ⟨l :: links, false⟩
        ((frames.map fun frame => "\tat " ++ frame.display) ++ rest) =
      TraceState.run ⟨{ l with frames := frames.reverse ++ l.frames } :: links, false⟩ rest := by
  induction frames generalizing l with
  | nil => rfl
  | cons frame frames ih =>
    rw [List.map_cons, List.cons_append, run_frameLine (h frame (List.mem_cons_self ..)),
      ih (fun f hf => h f (List.mem_cons_of_mem _ hf))]
    simp

/-- The lines of a cause add its link, or end the reading where the deepest link is read. -/
theorem run_causeLines {t : Throwable} (h : t.NamesType) (hframes : ∀ frame ∈ t.frames, frame.Shown)
    (links : List Link) (rest : List String) :
    TraceState.run ⟨links, false⟩ (t.causeLines ++ rest) =
      if Limits.causeDepth ≤ links.length then ⟨links, false⟩
      else TraceState.run ⟨t.readLink :: links, false⟩ rest := by
  have hmark : "Caused by: ".toList = causedBy ++ [' '] := by decide
  have hline : ("Caused by: " ++ t.display).toList = causedBy ++ ' ' :: t.display.toList := by
    rw [String.toList_append, hmark, List.append_assoc]
    rfl
  have hblank : (trim ("Caused by: " ++ t.display).toList).isEmpty = false :=
    trim_ne_nil (c := 'C') (by decide) (by rw [hline]; exact List.mem_cons_self ..)
  have hcause : causedBy.isPrefixOf ("Caused by: " ++ t.display).toList = true := by
    rw [hline]
    exact List.isPrefixOf_iff_prefix.mpr (List.prefix_append ..)
  have hstart : trimStart (("Caused by: " ++ t.display).toList.drop causedBy.length) =
      t.display.toList := by
    rw [hline, List.drop_left, trimStart, List.dropWhile_cons_of_pos (by decide)]
    exact h.trimStart_display
  rw [causeLines, List.cons_append, TraceState.run]
  simp only [hblank, hcause, hstart, h.header_display, Bool.false_eq_true, if_false, if_true]
  by_cases hdepth : Limits.causeDepth ≤ links.length
  · rw [if_pos hdepth, if_pos hdepth]
  · rw [if_neg hdepth, if_neg hdepth, frameLines, run_frameLines hframes, readLink,
      List.append_nil]

/-- The lines of causes add their links, down to the deepest one. -/
theorem run_causes {causes : List Throwable} (h : ∀ c ∈ causes, c.NamesType)
    (hframes : ∀ c ∈ causes, ∀ frame ∈ c.frames, frame.Shown) (links : List Link) :
    TraceState.run ⟨links, false⟩ (causes.flatMap causeLines) =
      ⟨((causes.take (Limits.causeDepth - links.length)).map readLink).reverse ++ links, false⟩ := by
  induction causes generalizing links with
  | nil => simp [TraceState.run]
  | cons c causes ih =>
    rw [List.flatMap_cons, run_causeLines (h c (List.mem_cons_self ..))
      (hframes c (List.mem_cons_self ..))]
    by_cases hdepth : Limits.causeDepth ≤ links.length
    · rw [if_pos hdepth, Nat.sub_eq_zero_of_le hdepth]
      rfl
    · rw [if_neg hdepth, ih (fun d hd => h d (List.mem_cons_of_mem _ hd))
        (fun d hd => hframes d (List.mem_cons_of_mem _ hd))]
      have hroom : Limits.causeDepth - links.length =
          Limits.causeDepth - (c.readLink :: links).length + 1 := by
        rw [List.length_cons]
        omega
      rw [hroom, List.take_succ_cons, List.map_cons, List.reverse_cons, List.append_assoc]
      rfl

/-- The header of a trace is its first link. -/
theorem run_display {t : Throwable} (h : t.NamesType) (hname : t.typeName ≠ "Suppressed")
    (rest : List String) :
    TraceState.run {} (t.display :: rest) =
      TraceState.run ⟨[⟨t.typeName, t.message, []⟩], false⟩ rest := by
  obtain ⟨c, cs, heq, hc⟩ := h.exists_cons
  have hhead : (t.display.toList.head?.any isBlank) = false := by rw [heq]; simp [hc]
  show TraceState.run ⟨[], false⟩ (t.display :: rest) = _
  rw [run_inside (trim_ne_nil hc (heq ▸ List.mem_cons_self ..)) h.not_causedBy]
  simp only [TraceState.inside, h.trimStart_display, h.not_suppressed hname, h.not_frame,
    h.header_display, hhead, Bool.false_eq_true, if_false]
  rfl

/-- A trace is read back as the throwable, cut behind the deepest link that is kept. -/
theorem Shown.ofLines?_traceLines {t : Throwable} (h : t.Shown) :
    ofLines? t.traceLines = some t.cut := by
  have hmem : ∀ c ∈ t.chain.tail, c ∈ t.chain := fun c hc => List.mem_of_mem_tail hc
  have hself : t ∈ t.chain := by rw [chain_eq]; exact List.mem_cons_self ..
  have hlinks : (TraceState.run {} t.traceLines).links =
      ((t.chain.map readLink).take Limits.causeDepth).reverse := by
    rw [traceLines, run_display (h.typeName t hself) h.outermost, frameLines,
      run_frameLines (h.frames t hself),
      run_causes (fun c hc => h.typeName c (hmem c hc)) (fun c hc => h.frames c (hmem c hc)),
      List.append_nil, ← List.map_take]
    rw [chain_eq t]
    show ((t.chain.tail.take 31).map readLink).reverse ++ [t.readLink] = _
    rw [← List.reverse_cons]
    rfl
  rw [ofLines?, hlinks, ← ofLinks?_chain t.cut, chain_cut, List.map_reverse, List.reverse_reverse,
    List.map_take, List.map_map]
  congr 3
  funext c
  simp [readLink, link]

end Throwable

/-! ## Attribution -/

namespace Throwable

/-- The innermost frames of a chain are those of its links. -/
theorem filterMap_firstFrame (chain : List Throwable) :
    chain.filterMap firstFrame = (chain.map link).filterMap fun l => l.frames.head? := by
  rw [List.filterMap_map]
  rfl

theorem link_cut (t : Throwable) : t.cut.link = t.link := by
  obtain ⟨name, m, fs, _ | c⟩ := t <;> rfl

end Throwable

namespace Attribution

/-- Attribution looks no deeper than the deepest link that is kept. -/
theorem ofThrowable_cut (policy : SkipPolicy) (t : Throwable) :
    ofThrowable policy t.cut = ofThrowable policy t := by
  have hfirst : t.cut.firstFrame = t.firstFrame := by
    show t.cut.link.frames.head? = t.link.frames.head?
    rw [Throwable.link_cut]
  have hchain : (t.cut.chain.take Limits.causeDepth).filterMap Throwable.firstFrame =
      (t.chain.take Limits.causeDepth).filterMap Throwable.firstFrame := by
    rw [Throwable.filterMap_firstFrame, Throwable.filterMap_firstFrame, List.map_take,
      List.map_take, Throwable.chain_cut, List.take_take, Nat.min_self]
  simp only [ofThrowable, hfirst, hchain]

end Attribution

namespace Log4j.Event

/-- An event with a throwable as the lines of its trace comes to the record of the event with the
throwable itself, with all links but those beyond the deepest one that is kept. -/
theorem normalize_traceLines {t : Throwable} (h : t.Shown) (e : Event) (policy : SkipPolicy)
    (stack : List StackFrame) (now : Instant) :
    Throwable.ofLines? t.traceLines = some t.cut ∧
      t.cut.chain.map Throwable.link = (t.chain.map Throwable.link).take Limits.causeDepth ∧
      normalize { e with throwable := none, throwableLines := some t.traceLines } policy stack now =
        (normalize { e with throwable := some t } policy stack now).map
          fun r => { r with throwable := some t.cut } := by
  have hread := h.ofLines?_traceLines
  refine ⟨hread, t.chain_cut, ?_⟩
  have hlines : anyThrowable { e with throwable := none, throwableLines := some t.traceLines } =
      some t.cut := hread
  have hobject : anyThrowable { e with throwable := some t } = some t := rfl
  have hlocate : Attribution.ofEvent (e.locationInfo.map (·.location)) policy (some t.cut) stack =
      Attribution.ofEvent (e.locationInfo.map (·.location)) policy (some t) stack := by
    simp only [Attribution.ofEvent, Attribution.locate, Attribution.ofThrowable_cut]
  simp only [normalize, hlines, hobject, hlocate]
  split <;> rfl

/-- A frame of a worker. -/
def workerFrame : StackFrame := ⟨"app.Worker", "run", some "Worker.java", 31⟩

/-- The failure of a worker, with `n` causes of the same kind. -/
def workerFailure : Nat → Throwable
  | 0 => .mk "app.Failure" (some "worker: lost") [workerFrame] none
  | n + 1 => .mk "app.Failure" (some "worker: lost") [workerFrame] (some (workerFailure n))

/-- An error of the worker. -/
def workerEvent : Event := { level := .error, loggerName := "app" }

/-- With 33 links, the last one is not kept. -/
theorem normalize_traceLines_workerFailure :
    (workerFailure 32).Shown ∧ (workerFailure 32).chain.length = 33 ∧
      (workerFailure 32).cut.chain.length = 32 ∧
      normalize { workerEvent with
          throwable := none
          throwableLines := some (workerFailure 32).traceLines } .none [] (.ofNanoseconds 0) =
        (normalize { workerEvent with throwable := some (workerFailure 32) } .none []
          (.ofNanoseconds 0)).map fun r => { r with throwable := some (workerFailure 32).cut } := by
  have hlinks : ∀ c ∈ (workerFailure 32).chain,
      c.typeName = "app.Failure" ∧ c.frames = [workerFrame] := by decide +kernel
  have hframe : workerFrame.Shown :=
    { owner := by decide
      method := by decide
      line := by decide
      noFile := by decide
      file := fun f hf => by cases hf; decide
      fileAlone := by decide }
  have hshown : (workerFailure 32).Shown :=
    { typeName := fun c hc => by
        refine ⟨by rw [(hlinks c hc).1]; decide, List.all_eq_true.mp ?_⟩
        rw [(hlinks c hc).1]
        decide
      frames := fun c hc frame hf => by
        rw [(hlinks c hc).2, List.mem_singleton] at hf
        exact hf ▸ hframe
      outermost := by decide }
  exact ⟨hshown, rfl, rfl,
    (normalize_traceLines hshown workerEvent .none [] (.ofNanoseconds 0)).2.2⟩

end Log4j.Event

end LogOrigin
