import LogOrigin.AdapterSet
import LogOrigin.Proofs.BindingCalls

/-!
# Adapters, call by call

What starting an adapter and handing it a record come to, by the state that the adapter is in,
whatever the sink is.
-/

namespace LogOrigin

namespace Framework

/-- Frameworks are known by their tags. -/
theorem logSystem_injective : Function.Injective logSystem := by
  intro f g h
  cases f <;> cases g <;> first | rfl | exact absurd h (by decide)

theorem countP_all (p : Framework → Bool) :
    all.countP p = (p .log4j).toNat + (p .log4j2).toNat + (p .logback).toNat := by
  simp only [all, List.countP_cons, List.countP_nil]
  cases p .log4j <;> cases p .log4j2 <;> cases p .logback <;> rfl

/-- A change for one framework changes a count over all of them by what it changes for the one. -/
theorem countP_all_change (p p' : Framework → Bool) {f : Framework}
    (h : ∀ g, g ≠ f → p' g = p g) :
    all.countP p' + (p f).toNat = all.countP p + (p' f).toNat := by
  rw [countP_all, countP_all]
  cases f with
  | log4j => rw [h .log4j2 (by decide), h .logback (by decide)]; omega
  | log4j2 => rw [h .log4j (by decide), h .logback (by decide)]; omega
  | logback => rw [h .log4j (by decide), h .log4j2 (by decide)]; omega

end Framework

namespace AdapterSet

variable {σ : Type} {s s' : AdapterSet σ} {f : Framework}

theorem set_get (p : PerFramework Binding) (f : Framework) : p.set f (p.get f) = p := by
  cases f <;> rfl

theorem state_set_self {b : Binding} (hb : s'.bindings = s.bindings.set f b) :
    s'.state f = b.state := by
  rw [state, hb, PerFramework.get_set_self]

theorem state_set_of_ne {b : Binding} (hb : s'.bindings = s.bindings.set f b) {g : Framework}
    (hg : g ≠ f) : s'.state g = s.state g := by
  rw [state, hb, PerFramework.get_set_of_ne _ _ hg, state]

/-- What is started has a handle. -/
theorem granted_of_started (hst : s.state f = .started) :
    (s.bindings.get f).stopped = false ∧ ∃ h, (s.bindings.get f).registration = .granted h :=
  Binding.state_eq_started_iff.mp hst

/-- An event that is filtered out has no record. -/
theorem normalize_of_isOff {e : CapturedEvent} (hoff : e.isOff = true) (now : Instant) :
    s.normalize now e = none := by
  cases e with
  | log4j e => exact if_pos hoff
  | log4j2 e => exact if_pos hoff
  | logback e => exact if_pos hoff

/-- An event that is not filtered out has a record, which carries the tag of its framework. -/
theorem normalize_of_not_isOff {e : CapturedEvent} (hoff : e.isOff = false) (now : Instant) :
    ∃ r, s.normalize now e = some r ∧ r.logSystem = e.framework.logSystem := by
  have hon : ¬ e.isOff = true := by rw [hoff]; decide
  cases e with
  | log4j e => exact ⟨_, if_neg hon, rfl⟩
  | log4j2 e => exact ⟨_, if_neg hon, rfl⟩
  | logback e => exact ⟨_, if_neg hon, rfl⟩

variable [Sink σ]

/-- Starting an adapter changes no record. -/
theorem normalize_start (s : AdapterSet σ) (f : Framework) (now : Instant) (e : CapturedEvent) :
    (s.start f).normalize now e = s.normalize now e := rfl

/-- An adapter that is started, failed or is stopped does not start again. -/
theorem start_of_not_uninitialized (hu : s.state f ≠ .uninitialized) : s.start f = s := by
  have hsame : (s.bindings.get f).start s.sink = (s.bindings.get f, s.sink) := by
    by_cases hs : s.state f = .started
    · obtain ⟨hst, h, hg⟩ := granted_of_started hs
      simp only [Binding.start, Binding.ensureStarted_of_granted hst hg]
    · simp only [Binding.start, Binding.ensureStarted_of_over hu hs]
  simp only [start, act, hsame, set_get]

/-- An event that is filtered out goes unnoticed. -/
theorem append_of_isOff {e : CapturedEvent} (hoff : e.isOff = true) (s : AdapterSet σ)
    (now : Instant) : s.append now e = s := by
  simp only [append, hoff, if_true]

/-- An event that leaves its adapter started has its record written. -/
theorem append_eq_write {e : CapturedEvent} (hoff : e.isOff = false) {now : Instant}
    (hst : (s.start e.framework).state e.framework = .started) {r : LogRecord}
    (hr : s.normalize now e = some r) :
    s.append now e = (s.start e.framework).act e.framework (·.write r) := by
  simp only [append, hoff, hst, normalize_start, hr, Bool.false_eq_true, if_false, if_true]

/-- An event whose adapter does not end up started is dropped. -/
theorem append_eq_start {e : CapturedEvent} (hoff : e.isOff = false) {now : Instant}
    (hst : (s.start e.framework).state e.framework ≠ .started) :
    s.append now e = s.start e.framework := by
  simp only [append, hoff, hst, Bool.false_eq_true, if_false]

end AdapterSet

end LogOrigin
