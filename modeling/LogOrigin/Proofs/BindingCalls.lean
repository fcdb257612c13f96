import LogOrigin.Binding.Threads

/-!
# Bindings, call by call

What `Binding.ensureStarted` and `Binding.stop` come to, by the state that the binding is in.
-/

namespace LogOrigin.Binding

/-- What a call makes of a binding and its sink. -/
def Call.perform {σ : Type} [Sink σ] (b : Binding) (sink : σ) : Call → Binding × σ
  | start => b.start sink
  | write r => b.write r sink
  | stop => b.stop sink
  | state => (b, sink)

/-- A binding between calls: what it was granted has been given back if and only if it is
stopped. -/
def Settled (b : Binding) : Prop := b.released = (b.stopped && b.handle?.isSome)

theorem state_eq_started_iff {b : Binding} :
    b.state = .started ↔ b.stopped = false ∧ ∃ h, b.registration = .granted h := by
  cases hs : b.stopped with
  | true => simp [state, hs]
  | false => cases hr : b.registration <;> simp [state, hs, hr]

theorem state_eq_uninitialized_iff {b : Binding} :
    b.state = .uninitialized ↔ b.stopped = false ∧ b.registration = .pending := by
  cases hs : b.stopped with
  | true => simp [state, hs]
  | false => cases hr : b.registration <;> simp [state, hs, hr]

section Registrations

variable {b : Binding}

theorem handle?_of_uninitialized (hu : b.state = .uninitialized) : b.handle? = none := by
  rw [handle?, (state_eq_uninitialized_iff.mp hu).2]

theorem settled_grant (hb : b.Settled) (hu : b.state = .uninitialized) (h : Handle) :
    Settled { b with registration := .granted h } := by
  obtain ⟨hst, -⟩ := state_eq_uninitialized_iff.mp hu
  rw [Settled, hst] at hb
  rw [Settled, hst]
  exact hb

theorem settled_refuse (hb : b.Settled) (hu : b.state = .uninitialized) :
    Settled { b with registration := .refused } := by
  obtain ⟨hst, -⟩ := state_eq_uninitialized_iff.mp hu
  rw [Settled, hst] at hb
  rw [Settled, hst]
  exact hb

/-- What has not been started has nothing that it could have given back. -/
theorem released_of_uninitialized (hb : b.Settled) (hu : b.state = .uninitialized) :
    b.released = false := by
  rw [hb, (state_eq_uninitialized_iff.mp hu).1]
  rfl

/-- Where nothing is registered, nothing has to be given back. -/
theorem settled_mark (hb : b.Settled) (hn : b.state ≠ .started) :
    Settled { b with stopped := true } := by
  rw [Settled] at hb ⊢
  cases hst : b.stopped with
  | true => rw [hb, hst]; rfl
  | false =>
    have hnone : b.handle? = none := by
      cases hr : b.registration with
      | granted h => exact absurd (state_eq_started_iff.mpr ⟨hst, h, hr⟩) hn
      | pending => simp only [handle?, hr]
      | refused => simp only [handle?, hr]
    rw [hb, hst]
    show false = (true && b.handle?.isSome)
    rw [hnone]
    rfl

theorem settled_end {h : Handle} (hr : b.registration = .granted h) :
    Settled { b with stopped := true, released := true } := by
  show true = (true && b.handle?.isSome)
  rw [handle?, hr]
  rfl

theorem state_grant (hu : b.state = .uninitialized) (h : Handle) :
    state { b with registration := .granted h } = .started :=
  state_eq_started_iff.mpr ⟨(state_eq_uninitialized_iff.mp hu).1, h, rfl⟩

theorem state_refuse (hu : b.state = .uninitialized) :
    state { b with registration := .refused } = .failed := by
  simp [state, (state_eq_uninitialized_iff.mp hu).1]

end Registrations

variable {σ : Type} [Sink σ] {b : Binding} {sink : σ}

/-- What an attempt to register comes to. -/
theorem register_of_pending (hr : b.registration = .pending) (sink : σ) :
    b.register sink = ({ b with
      registration := .ofAnswer (Sink.start b.logSystem sink).result
      stopped := b.stopped || (Sink.start b.logSystem sink).stopsCaller },
      (Sink.start b.logSystem sink).sink) := by
  simp only [register, hr]
  cases (Sink.start b.logSystem sink).result <;> rfl

/-- A binding that has not been started registers. -/
theorem ensureStarted_of_uninitialized (sink : σ) (h : b.state = .uninitialized)
    (hstops : (Sink.start b.logSystem sink).stopsCaller = false) :
    b.ensureStarted sink =
      ({ b with registration := .ofAnswer (Sink.start b.logSystem sink).result },
        (Sink.start b.logSystem sink).sink, (Sink.start b.logSystem sink).result.toOption) := by
  obtain ⟨hst, hr⟩ := state_eq_uninitialized_iff.mp h
  simp only [ensureStarted, hst, register_of_pending hr, hstops, Bool.or_false, Bool.false_eq_true,
    if_false]
  cases (Sink.start b.logSystem sink).result <;> rfl

/-- A binding that the sink stops while it registers gives back what it is granted. -/
theorem ensureStarted_of_stopsCaller (sink : σ) (h : b.state = .uninitialized)
    (hstops : (Sink.start b.logSystem sink).stopsCaller = true) :
    b.ensureStarted sink =
      let (b, sink) := release
        { b with
          registration := .ofAnswer (Sink.start b.logSystem sink).result
          stopped := true }
        (Sink.start b.logSystem sink).sink
      (b, sink, none) := by
  obtain ⟨hst, hr⟩ := state_eq_uninitialized_iff.mp h
  simp only [ensureStarted, hst, register_of_pending hr, hstops, Bool.or_true, Bool.false_eq_true,
    if_false, if_true]

/-- A binding that is started has its handle ready. -/
theorem ensureStarted_of_granted (hst : b.stopped = false) {h : Handle}
    (hr : b.registration = .granted h) : b.ensureStarted sink = (b, sink, some h) := by
  simp only [ensureStarted, hst, register, hr, handle?, Bool.false_eq_true, if_false]

/-- A binding that failed or is stopped stays as it is. -/
theorem ensureStarted_of_over (hu : b.state ≠ .uninitialized) (hs : b.state ≠ .started) :
    b.ensureStarted sink = (b, sink, none) := by
  cases hst : b.stopped with
  | true => simp [ensureStarted, hst]
  | false =>
    cases hr : b.registration with
    | pending => exact absurd (state_eq_uninitialized_iff.mpr ⟨hst, hr⟩) hu
    | granted h => exact absurd (state_eq_started_iff.mpr ⟨hst, h, hr⟩) hs
    | refused => simp [ensureStarted, hst, register, hr, handle?]

/-- Stopping a binding that is started gives its registration back. -/
theorem stop_of_granted (sink : σ) (hb : b.Settled) (hst : b.stopped = false) {h : Handle}
    (hr : b.registration = .granted h) :
    b.stop sink = ({ b with stopped := true, released := true }, Sink.shutdown h sink) := by
  have hrel : b.released = false := by rw [hb, hst]; rfl
  simp [stop, hst, release, hr, hrel]

/-- Stopping a binding that is not started only marks it. -/
theorem stop_of_not_started (sink : σ) (hs : b.state ≠ .started) :
    b.stop sink = ({ b with stopped := true }, sink) := by
  cases hst : b.stopped with
  | true =>
    cases b
    cases hst
    rfl
  | false =>
    cases hr : b.registration with
    | granted h => exact absurd (state_eq_started_iff.mpr ⟨hst, h, hr⟩) hs
    | pending => simp [stop, hst, release, hr]
    | refused => simp [stop, hst, release, hr]

end LogOrigin.Binding
