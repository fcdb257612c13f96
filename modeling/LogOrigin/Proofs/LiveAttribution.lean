import LogOrigin.AdapterSet
import LogOrigin.Instant.Epoch
import LogOrigin.Proofs.CheckedConfig

/-!
# Attribution to the call stack

An event with neither a location nor a throwable is attributed to the innermost frame of the call
stack, from a number of frames on, whose owner starts with none of some texts (`Innermost`). A
configuration adds to these texts and to that number, so it can only move such an event outward
(`CapturedEvent.normalize_live`).
-/

namespace LogOrigin

/-- The owner of the frame starts with none of the texts. -/
def StackFrame.Outside (owners : List String) (frame : StackFrame) : Prop :=
  ∀ owner ∈ owners, ¬ owner.toList <+: frame.className.toList

/-- A frame, at its index, is the first one of a stack behind the skipped ones whose owner starts
with none of the texts. -/
structure Innermost (skip : Nat) (owners : List String) (stack : List StackFrame) (i : Nat)
    (frame : StackFrame) : Prop where
  position : stack[i]? = some frame
  behind : skip ≤ i
  outside : frame.Outside owners
  first : ∀ j other, skip ≤ j → j < i → stack[j]? = some other → ¬ other.Outside owners

namespace Innermost

variable {skip : Nat} {owners : List String} {stack : List StackFrame}

theorem outside_iff {frame : StackFrame} :
    frame.Outside owners ↔ (!frame.isExcluded owners) = true := by
  simp [StackFrame.Outside, StackFrame.isExcluded]

/-- The frame that is found is the innermost one. -/
theorem firstQualifying_eq_some_iff {frame : StackFrame} :
    Attribution.firstQualifying skip owners stack = some frame ↔
      ∃ i, Innermost skip owners stack i frame := by
  -- an index into the stack is by `skip` greater than one into what is left of it
  rw [Attribution.firstQualifying, List.find?_eq_some_iff_getElem]
  constructor
  · rintro ⟨hkept, i, hi, hframe, hbefore⟩
    refine ⟨skip + i, ?_, Nat.le_add_right _ _, outside_iff.mpr hkept, ?_⟩
    · rw [← List.getElem?_drop, List.getElem?_eq_getElem hi, hframe]
    · intro j other hskip hj hother houtside
      obtain ⟨k, rfl⟩ := Nat.exists_eq_add_of_le hskip
      have hk : k < i := by omega
      have hdropped := hbefore k hk
      rw [← List.getElem?_drop, List.getElem?_eq_getElem (Nat.lt_trans hk hi)] at hother
      rw [Option.some.inj hother, outside_iff.mp houtside] at hdropped
      cases hdropped
  · rintro ⟨i, hposition, hskip, houtside, hfirst⟩
    obtain ⟨k, rfl⟩ := Nat.exists_eq_add_of_le hskip
    rw [← List.getElem?_drop, List.getElem?_eq_some_iff] at hposition
    obtain ⟨hk, hframe⟩ := hposition
    refine ⟨outside_iff.mp houtside, k, hk, hframe, fun j hj => ?_⟩
    have hother : stack[skip + j]? = some (stack.drop skip)[j] := by
      rw [← List.getElem?_drop, List.getElem?_eq_getElem (Nat.lt_trans hj hk)]
    have hinside := hfirst (skip + j) _ (Nat.le_add_right _ _) (by omega) hother
    rw [outside_iff] at hinside
    simpa using hinside

/-- None is found where there is none. -/
theorem firstQualifying_eq_none_iff :
    Attribution.firstQualifying skip owners stack = none ↔
      ∀ i frame, skip ≤ i → stack[i]? = some frame → ¬ frame.Outside owners := by
  rw [Attribution.firstQualifying, List.find?_eq_none]
  constructor
  · intro hnone i frame hskip hframe houtside
    obtain ⟨k, rfl⟩ := Nat.exists_eq_add_of_le hskip
    rw [← List.getElem?_drop] at hframe
    exact hnone frame (List.mem_of_getElem? hframe) (outside_iff.mp houtside)
  · intro hnone frame hframe hkept
    obtain ⟨k, hk⟩ := List.getElem?_of_mem hframe
    rw [List.getElem?_drop] at hk
    exact hnone _ frame (Nat.le_add_right _ _) hk (outside_iff.mpr hkept)

/-- It makes no difference in which order the texts come, or how often. -/
theorem firstQualifying_congr {owners' : List String}
    (h : ∀ owner, owner ∈ owners ↔ owner ∈ owners') :
    Attribution.firstQualifying skip owners stack =
      Attribution.firstQualifying skip owners' stack := by
  have hexcluded : ∀ frame : StackFrame, frame.isExcluded owners = frame.isExcluded owners' := by
    intro frame
    rw [Bool.eq_iff_iff, StackFrame.isExcluded, StackFrame.isExcluded, List.any_eq_true,
      List.any_eq_true]
    simp only [h]
  simp only [Attribution.firstQualifying, hexcluded]

/-- Where less is skipped and fewer texts count, the innermost frame lies no further out. -/
theorem inward {skip' : Nat} {owners' : List String} (hskip : skip' ≤ skip)
    (howners : ∀ owner ∈ owners', owner ∈ owners) {i : Nat} {frame : StackFrame}
    (h : Innermost skip owners stack i frame) :
    ∃ j other, j ≤ i ∧ Innermost skip' owners' stack j other := by
  have hbehind : skip' ≤ i := Nat.le_trans hskip h.behind
  have houtside : frame.Outside owners' := fun owner howner => h.outside owner (howners owner howner)
  cases hfound : Attribution.firstQualifying skip' owners' stack with
  | none =>
    have hnone := firstQualifying_eq_none_iff.mp hfound i frame hbehind h.position
    exact absurd houtside hnone
  | some other =>
    obtain ⟨j, hj⟩ := firstQualifying_eq_some_iff.mp hfound
    refine ⟨j, other, ?_, hj⟩
    by_contra hlater
    exact hj.first i frame hbehind (Nat.lt_of_not_le hlater) h.position houtside

end Innermost

/-! ## Events -/

namespace CapturedEvent

/-- The throwable of an event, in whatever form it has it. -/
def throwable? : CapturedEvent → Option Throwable
  | log4j e => e.anyThrowable
  | log4j2 e => e.thrown
  | logback e => e.throwableProxy

/-- The location that came with an event, in whatever form. -/
def location? : CapturedEvent → Option SourceLocation
  | log4j e => e.locationInfo.map (·.location)
  | log4j2 e => e.source.map SourceLocation.ofFrame
  | logback e => e.callerData.head?.map SourceLocation.ofFrame

variable {e : CapturedEvent}

/-- The record of an event has the location that the event is attributed to. -/
theorem normalize_location (hon : e.isOff = false) (policy : SkipPolicy) (stack : List StackFrame)
    (now : Instant) :
    ∃ r, e.normalize policy stack now = some r ∧
      r.sourceLocation = Attribution.ofEvent e.location? policy e.throwable? stack := by
  have hkept : ¬ e.isOff = true := by rw [hon]; decide
  cases e with
  | log4j e => exact ⟨_, if_neg hkept, rfl⟩
  | log4j2 e => exact ⟨_, if_neg hkept, rfl⟩
  | logback e => exact ⟨_, if_neg hkept, rfl⟩

/-- An event that tells nothing itself is attributed to the call stack. -/
theorem normalize_of_silent (hon : e.isOff = false) (hthrowable : e.throwable? = none)
    (hlocation : ∀ l ∈ e.location?, l = .unknown) (policy : SkipPolicy) (stack : List StackFrame)
    (now : Instant) :
    ∃ r, e.normalize policy stack now = some r ∧ r.sourceLocation =
      .ofFrame? (Attribution.firstQualifying policy.skipFrames policy.exclusions stack) := by
  obtain ⟨r, hr, hsource⟩ := normalize_location hon policy stack now
  refine ⟨r, hr, ?_⟩
  rw [hsource, hthrowable]
  cases hl : e.location? with
  | none => rfl
  | some l =>
    rw [hlocation l hl]
    rfl

end CapturedEvent

/-! ## Adapters -/

namespace AdapterSet

/-- Whatever a configuration says, an event with neither a throwable nor a location that says
anything is attributed to the innermost frame of the call stack behind the skipped ones, of which
there are no more than the limit, whose owner belongs neither to the attribution machinery nor to
its framework nor to what the configuration adds; and to nothing if there is no such frame. The
default configuration attributes it to a frame that is no further out. -/
theorem normalize_live {σ : Type} (raw : RawConfig) (stack : List StackFrame) (sink : σ)
    (now : Instant) (e : CapturedEvent) (hon : e.isOff = false) (hthrowable : e.throwable? = none)
    (hlocation : ∀ l ∈ e.location?, l = .unknown) :
    let f := e.framework
    let config := Config.ofRaw raw
    let skip := (config.policies.get f).skipFrames
    let builtIn := Limits.ownFrames :: Limits.walkerFrames :: f.packages
    let added := (((raw.frameworks.get f).exclusions.getD []).take Limits.exclusions).filter (· ≠ "")
    skip ≤ Limits.skippedFrames ∧
    (∃ r, (ofConfig config stack sink).normalize now e = some r ∧
      ((∃ i frame, Innermost skip (builtIn ++ added) stack i frame ∧
          r.sourceLocation = .ofFrame frame) ∨
        ((∀ i frame, skip ≤ i → stack[i]? = some frame → ¬ frame.Outside (builtIn ++ added)) ∧
          r.sourceLocation = .unknown))) ∧
    (∀ i frame, Innermost skip (builtIn ++ added) stack i frame →
      ∃ j other r, j ≤ i ∧
        Innermost (Config.default.policies.get f).skipFrames builtIn stack j other ∧
        (ofConfig .default stack sink).normalize now e = some r ∧
        r.sourceLocation = .ofFrame other) := by
  intro f config skip builtIn added
  refine ⟨Config.skipFrames_ofRaw_le raw f, ?_, fun i frame h => ?_⟩
  · obtain ⟨r, hr, hsource⟩ :=
      CapturedEvent.normalize_of_silent hon hthrowable hlocation (config.policies.get f) stack now
    rw [Innermost.firstQualifying_congr (Config.mem_exclusions_ofRaw raw f)] at hsource
    refine ⟨r, hr, ?_⟩
    cases hfound : Attribution.firstQualifying skip (builtIn ++ added) stack with
    | none =>
      right
      refine ⟨Innermost.firstQualifying_eq_none_iff.mp hfound, hsource.trans ?_⟩
      exact congrArg SourceLocation.ofFrame? hfound
    | some frame =>
      left
      obtain ⟨i, hi⟩ := Innermost.firstQualifying_eq_some_iff.mp hfound
      exact ⟨i, frame, hi, hsource.trans (congrArg SourceLocation.ofFrame? hfound)⟩
  · have hfewer : ∀ owner ∈ builtIn, owner ∈ builtIn ++ added :=
      fun owner howner => List.mem_append_left added howner
    obtain ⟨j, other, hj, hother⟩ := h.inward (Nat.zero_le skip) hfewer
    obtain ⟨r, hr, hsource⟩ := CapturedEvent.normalize_of_silent hon hthrowable hlocation
      (Config.default.policies.get f) stack now
    have hfound := Innermost.firstQualifying_eq_some_iff.mpr ⟨j, hother⟩
    rw [Config.policy_default] at hsource ⊢
    exact ⟨j, other, r, hj, hother, hr, hsource.trans (congrArg SourceLocation.ofFrame? hfound)⟩

/-- Behind the machinery and a wrapper that the configuration excludes stands the application. -/
theorem normalize_live_wrapper :
    let raw : RawConfig := { frameworks := .make fun _ => { exclusions := some ["", "app.log."] } }
    let site : StackFrame := ⟨"app.Main", "run", some "Main.java", 7⟩
    let stack : List StackFrame :=
      [⟨"logwhence::adapters", "append", none, 0⟩, ⟨"app.log.Wrapper", "info", none, 0⟩, site]
    let e : CapturedEvent := .log4j { level := .info, loggerName := "app" }
    ∃ r, (ofConfig (Config.ofRaw raw) stack ()).normalize (.ofNanoseconds 0) e = some r ∧
      r.sourceLocation = .ofFrame site := by
  intro raw site stack e
  obtain ⟨-, ⟨r, hr, hfound | ⟨hnone, -⟩⟩, -⟩ := normalize_live raw stack () (.ofNanoseconds 0) e
    rfl rfl (by rintro l ⟨⟩)
  · obtain ⟨i, frame, hframe, hsource⟩ := hfound
    have hkept := Innermost.outside_iff.mp hframe.outside
    have hposition := hframe.position
    match i with
    | 0 =>
      cases hposition
      exact absurd hkept (by decide +kernel)
    | 1 =>
      cases hposition
      exact absurd hkept (by decide +kernel)
    | 2 =>
      cases hposition
      exact ⟨r, hr, hsource⟩
    | i + 3 => cases hposition
  · exact absurd (Innermost.outside_iff.mpr (by decide +kernel)) (hnone 2 site (by decide) rfl)

end AdapterSet

end LogOrigin
