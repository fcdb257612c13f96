import LogOrigin.Proofs.LiveAttribution
import LogOrigin.Proofs.TraceRoundTrip

/-!
# Attribution to a cause

Where the policy passes over excluded owners, a throwable whose own innermost frame is excluded is
attributed to the first of its causes whose innermost frame is not (`FirstCause`), and to its own
frame if there is no such cause (`Attribution.ofThrowable_skipExcluded`). A throwable without frames
is attributed to such a cause as well.
-/

namespace LogOrigin

namespace Throwable

/-- The innermost frame of the link at an index of the cause chain, the throwable itself having
index 0. -/
def frameAt? (t : Throwable) (i : Nat) : Option StackFrame := t.chain[i]?.bind firstFrame

theorem frameAt?_zero (t : Throwable) : t.frameAt? 0 = t.firstFrame := by
  unfold frameAt?
  rw [chain_eq]
  rfl

theorem frameAt?_succ (t : Throwable) (i : Nat) :
    t.frameAt? (i + 1) = t.chain.tail[i]?.bind firstFrame := by
  rw [frameAt?, List.getElem?_tail]

end Throwable

/-- A frame is the innermost one of a cause, at its index in the chain, and the owners of the
innermost frames of the causes before it start with one of the texts. -/
structure FirstCause (owners : List String) (t : Throwable) (i : Nat) (frame : StackFrame) :
    Prop where
  position : t.frameAt? i = some frame
  cause : 0 < i
  kept : i < Limits.causeDepth
  outside : frame.Outside owners
  first : ∀ j other, 0 < j → j < i → t.frameAt? j = some other → ¬ other.Outside owners

namespace Attribution

/-! ## The first cause -/

/-- The first element that passes a test among those that are there, by its index. -/
theorem find?_filterMap_eq_some_iff {α β : Type} {f : α → Option β} {p : β → Bool} {xs : List α}
    {b : β} :
    (xs.filterMap f).find? p = some b ↔
      ∃ i : Nat, xs[i]?.bind f = some b ∧ p b = true ∧
        ∀ (j : Nat) other, j < i → xs[j]?.bind f = some other → ¬ p other = true := by
  rw [List.find?_filterMap, Option.bind_eq_some_iff]
  constructor
  · rintro ⟨a, ha, hb⟩
    obtain ⟨hkept, i, hi, rfl, hbefore⟩ := List.find?_eq_some_iff_getElem.mp ha
    rw [hb, Option.any_some] at hkept
    refine ⟨i, ?_, hkept, ?_⟩
    · rw [List.getElem?_eq_getElem hi]
      exact hb
    · intro j other hj hother
      rw [List.getElem?_eq_getElem (Nat.lt_trans hj hi), Option.bind_some] at hother
      have hpassed := hbefore j hj
      rw [hother, Option.any_some] at hpassed
      simpa using hpassed
  · rintro ⟨i, hb, hkept, hbefore⟩
    obtain ⟨a, ha, hb⟩ := Option.bind_eq_some_iff.mp hb
    obtain ⟨hi, rfl⟩ := List.getElem?_eq_some_iff.mp ha
    refine ⟨_, List.find?_eq_some_iff_getElem.mpr ⟨?_, i, hi, rfl, ?_⟩, hb⟩
    · rw [hb]
      exact hkept
    · intro j hj
      have hj' := Nat.lt_trans hj hi
      cases hother : f xs[j] with
      | none => rfl
      | some other =>
        have hpassed := hbefore j other hj (by rw [List.getElem?_eq_getElem hj']; exact hother)
        simpa using hpassed

/-- The innermost frame of the first cause for which its owner is not excluded. -/
def firstCause (owners : List String) (t : Throwable) : Option StackFrame :=
  ((t.chain.tail.take (Limits.causeDepth - 1)).filterMap Throwable.firstFrame).find? fun frame =>
    !frame.isExcluded owners

section Causes

variable {owners : List String} {t : Throwable}

/-- What stands at an index among the causes that are looked at. -/
theorem frame_of_causes (t : Throwable) (i : Nat) :
    (t.chain.tail.take (Limits.causeDepth - 1))[i]?.bind Throwable.firstFrame =
      if i + 1 < Limits.causeDepth then t.frameAt? (i + 1) else none := by
  have hlimit : i < Limits.causeDepth - 1 ↔ i + 1 < Limits.causeDepth := by omega
  rw [List.getElem?_take, Throwable.frameAt?_succ]
  by_cases h : i + 1 < Limits.causeDepth
  · rw [if_pos h, if_pos (hlimit.mpr h)]
  · rw [if_neg h, if_neg (mt hlimit.mp h)]
    rfl

theorem firstCause_eq_some_iff {frame : StackFrame} :
    firstCause owners t = some frame ↔ ∃ i, FirstCause owners t i frame := by
  unfold firstCause
  rw [find?_filterMap_eq_some_iff]
  constructor
  · rintro ⟨i, hframe, hkept, hbefore⟩
    rw [frame_of_causes] at hframe
    by_cases hi : i + 1 < Limits.causeDepth
    · rw [if_pos hi] at hframe
      refine ⟨i + 1, hframe, Nat.succ_pos i, hi, Innermost.outside_iff.mpr hkept, ?_⟩
      intro j other hpos hj hother
      obtain ⟨k, rfl⟩ := Nat.exists_eq_add_of_lt hpos
      rw [Nat.zero_add] at hj hother
      rw [Innermost.outside_iff]
      refine hbefore k other (by omega) ?_
      rw [frame_of_causes, if_pos (by omega)]
      exact hother
    · rw [if_neg hi] at hframe
      cases hframe
  · rintro ⟨i, h⟩
    obtain ⟨k, rfl⟩ := Nat.exists_eq_add_of_lt h.cause
    have hk : k + 1 < Limits.causeDepth := by
      have := h.kept
      omega
    refine ⟨k, ?_, Innermost.outside_iff.mp h.outside, ?_⟩
    · rw [frame_of_causes, if_pos hk, ← h.position, Nat.zero_add]
    · intro j other hj hother
      rw [frame_of_causes, if_pos (by omega)] at hother
      rw [← Innermost.outside_iff]
      exact h.first (j + 1) other (Nat.succ_pos j) (by omega) hother

/-- Where no cause has a frame that is not excluded, there is no first one. -/
theorem firstCause_eq_none (h : ∀ i frame, ¬ FirstCause owners t i frame) :
    firstCause owners t = none := by
  cases hcause : firstCause owners t with
  | none => rfl
  | some frame =>
    obtain ⟨i, hi⟩ := firstCause_eq_some_iff.mp hcause
    exact absurd hi (h i frame)

/-- Only the innermost frames count, and only down to the deepest link that is looked at. -/
theorem firstCause_congr {t' : Throwable}
    (h : ∀ i, i < Limits.causeDepth → t'.frameAt? i = t.frameAt? i) :
    firstCause owners t' = firstCause owners t := by
  have hiff : ∀ frame, firstCause owners t' = some frame ↔ firstCause owners t = some frame := by
    intro frame
    rw [firstCause_eq_some_iff, firstCause_eq_some_iff]
    constructor
    · rintro ⟨i, hi⟩
      refine ⟨i, (h i hi.kept).symm.trans hi.position, hi.cause, hi.kept, hi.outside, ?_⟩
      intro j other hpos hj hother
      refine hi.first j other hpos hj ?_
      rw [h j (Nat.lt_trans hj hi.kept), hother]
    · rintro ⟨i, hi⟩
      refine ⟨i, (h i hi.kept).trans hi.position, hi.cause, hi.kept, hi.outside, ?_⟩
      intro j other hpos hj hother
      refine hi.first j other hpos hj ?_
      rw [← h j (Nat.lt_trans hj hi.kept), hother]
  exact Option.ext hiff

end Causes

/-! ## Throwables -/

variable {policy : SkipPolicy}

/-- The throwable's own innermost frame is looked at before those of its causes. -/
theorem candidates_eq (t : Throwable) :
    (t.chain.take Limits.causeDepth).filterMap Throwable.firstFrame = t.firstFrame.toList ++
      (t.chain.tail.take (Limits.causeDepth - 1)).filterMap Throwable.firstFrame := by
  rw [Throwable.chain_eq t]
  show (t :: t.chain.tail.take (Limits.causeDepth - 1)).filterMap Throwable.firstFrame = _
  cases h : t.firstFrame with
  | none => rw [List.filterMap_cons_none h]; rfl
  | some frame => rw [List.filterMap_cons_some h]; rfl

/-- A throwable whose own innermost frame is not excluded is attributed to that frame. -/
theorem ofThrowable_of_outside (hmode : policy.exceptionMode = .skipExcluded) {t : Throwable}
    {frame : StackFrame} (hframe : t.firstFrame = some frame)
    (houtside : frame.Outside policy.exclusions) : ofThrowable policy t = .ofFrame frame := by
  have hkept := Innermost.outside_iff.mp houtside
  unfold ofThrowable
  rw [hmode]
  simp only [candidates_eq, hframe, Option.toList_some, List.singleton_append, List.find?_cons,
    hkept]
  rfl

/-- A throwable whose own innermost frame is excluded, or that has none, is attributed to the first
cause whose innermost frame is not excluded, and to its own frame if there is no such cause. -/
theorem ofThrowable_of_not_outside (hmode : policy.exceptionMode = .skipExcluded) {t : Throwable}
    (hframe : ∀ frame, t.firstFrame = some frame → ¬ frame.Outside policy.exclusions) :
    ofThrowable policy t = .ofFrame? (firstCause policy.exclusions t <|> t.firstFrame) := by
  have hown : t.firstFrame.toList.find? (fun frame => !frame.isExcluded policy.exclusions) = none := by
    rw [List.find?_eq_none]
    intro frame hmem hkept
    exact hframe frame (Option.mem_toList.mp hmem) (Innermost.outside_iff.mpr hkept)
  unfold ofThrowable
  rw [hmode]
  simp only [candidates_eq, List.find?_append, hown, Option.none_or]
  rfl

/-- Only the innermost frames of the links count, and only down to the deepest one looked at. -/
theorem ofThrowable_congr (hmode : policy.exceptionMode = .skipExcluded) {t t' : Throwable}
    (h : ∀ i, i < Limits.causeDepth → t'.frameAt? i = t.frameAt? i) :
    ofThrowable policy t' = ofThrowable policy t := by
  have hfirst : t'.firstFrame = t.firstFrame := by
    rw [← Throwable.frameAt?_zero, ← Throwable.frameAt?_zero]
    exact h 0 (by decide)
  by_cases hown : ∃ frame, t.firstFrame = some frame ∧ frame.Outside policy.exclusions
  · obtain ⟨frame, hframe, houtside⟩ := hown
    rw [ofThrowable_of_outside hmode hframe houtside,
      ofThrowable_of_outside hmode (hfirst.trans hframe) houtside]
  · have hnot : ∀ frame, t.firstFrame = some frame → ¬ frame.Outside policy.exclusions := by
      intro frame hframe houtside
      exact hown ⟨frame, hframe, houtside⟩
    have hnot' : ∀ frame, t'.firstFrame = some frame → ¬ frame.Outside policy.exclusions := by
      intro frame hframe
      exact hnot frame (hfirst.symm.trans hframe)
    rw [ofThrowable_of_not_outside hmode hnot, ofThrowable_of_not_outside hmode hnot',
      firstCause_congr h, hfirst]

/-- Under a policy that passes over excluded owners, a throwable is attributed to its own innermost
frame unless that is excluded or missing; else to the innermost frame of the first cause, down to
the deepest link that is looked at, for which it is not excluded; and as under any other policy if
there is no such cause. So a throwable without frames has an unknown location just if nothing is
known of such a cause. No other frame and no deeper link makes a difference. -/
theorem ofThrowable_skipExcluded (hmode : policy.exceptionMode = .skipExcluded) (t : Throwable) :
    let outer := ofThrowable { policy with exceptionMode := .outer } t
    outer = .ofFrame? t.firstFrame ∧
    (∀ frame, t.firstFrame = some frame → frame.Outside policy.exclusions →
      ofThrowable policy t = .ofFrame frame) ∧
    ((∀ frame, t.firstFrame = some frame → ¬ frame.Outside policy.exclusions) →
      (∀ i frame, FirstCause policy.exclusions t i frame → ofThrowable policy t = .ofFrame frame) ∧
      ((∀ i frame, ¬ FirstCause policy.exclusions t i frame) → ofThrowable policy t = outer)) ∧
    (t.frames = [] → (ofThrowable policy t = .unknown ↔
      ∀ i frame, FirstCause policy.exclusions t i frame →
        SourceLocation.ofFrame frame = .unknown)) ∧
    ∀ t', (∀ i, i < Limits.causeDepth → t'.frameAt? i = t.frameAt? i) →
      ofThrowable policy t' = ofThrowable policy t := by
  intro outer
  refine ⟨rfl, ?_, ?_, ?_, ?_⟩
  · intro frame hframe houtside
    exact ofThrowable_of_outside hmode hframe houtside
  · intro hnot
    rw [ofThrowable_of_not_outside hmode hnot]
    constructor
    · intro i frame hcause
      rw [firstCause_eq_some_iff.mpr ⟨i, hcause⟩]
      rfl
    · intro hnone
      rw [firstCause_eq_none hnone]
      rfl
  · intro hempty
    have hfirst : t.firstFrame = none := by
      rw [Throwable.firstFrame, hempty]
      rfl
    have hnot : ∀ frame, t.firstFrame = some frame → ¬ frame.Outside policy.exclusions := by
      intro frame hframe
      rw [hfirst] at hframe
      cases hframe
    rw [ofThrowable_of_not_outside hmode hnot, hfirst]
    constructor
    · intro hunknown i frame hcause
      rw [firstCause_eq_some_iff.mpr ⟨i, hcause⟩] at hunknown
      exact hunknown
    · intro hall
      cases hcause : firstCause policy.exclusions t with
      | none => rfl
      | some frame =>
        obtain ⟨i, hi⟩ := firstCause_eq_some_iff.mp hcause
        exact hall i frame hi
  · intro t' h
    exact ofThrowable_congr hmode h

/-- Excludes the frames of a framework, and passes over them. -/
def passingOver : SkipPolicy := { exclusions := ["org.framework."], exceptionMode := .skipExcluded }

/-- A failure of the application. -/
def failure : Throwable := .mk "app.Failure" none [⟨"app.Dao", "load", some "Dao.java", 7⟩] none

/-- Behind a frame of the framework and a cause without frames stands the application. -/
theorem ofThrowable_skipExcluded_failure :
    let t : Throwable := .mk "Wrapped" none [⟨"org.framework.Proxy", "invoke", none, 0⟩]
      (some (.mk "Middle" none [] (some failure)))
    passingOver.exceptionMode = .skipExcluded ∧
      (∀ frame, t.firstFrame = some frame → ¬ frame.Outside passingOver.exclusions) ∧
      FirstCause passingOver.exclusions t 2 ⟨"app.Dao", "load", some "Dao.java", 7⟩ ∧
      ofThrowable passingOver t = .ofFrame ⟨"app.Dao", "load", some "Dao.java", 7⟩ := by
  intro t
  have hnot : ∀ frame, t.firstFrame = some frame → ¬ frame.Outside passingOver.exclusions := by
    intro frame hframe houtside
    cases hframe
    cases Innermost.outside_iff.mp houtside
  have hcause : FirstCause passingOver.exclusions t 2 ⟨"app.Dao", "load", some "Dao.java", 7⟩ :=
    { position := rfl
      cause := by decide
      kept := by decide
      outside := Innermost.outside_iff.mpr (by decide)
      first := by
        intro j other hpos hj hother
        obtain rfl : j = 1 := by omega
        cases hother }
  have hmode : passingOver.exceptionMode = .skipExcluded := rfl
  obtain ⟨-, -, hcauses, -, -⟩ := ofThrowable_skipExcluded hmode t
  exact ⟨hmode, hnot, hcause, (hcauses hnot).1 2 _ hcause⟩

/-- A throwable without frames is attributed to a cause, although nothing of its own is excluded. -/
theorem ofThrowable_without_frames :
    let t : Throwable := .mk "Wrapped" none [] (some failure)
    t.frames = [] ∧ ofThrowable { passingOver with exceptionMode := .outer } t = .unknown ∧
      ofThrowable passingOver t = .ofFrame ⟨"app.Dao", "load", some "Dao.java", 7⟩ ∧
      ofThrowable passingOver t ≠ .unknown := by
  decide

end Attribution

end LogOrigin
