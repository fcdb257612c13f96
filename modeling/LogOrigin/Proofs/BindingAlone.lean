import LogOrigin.Proofs.BindingCalls
import LogOrigin.Proofs.BindingThreads
import Mathlib.Logic.Relation

/-!
# Bindings under concurrent calls: a thread that is alone, and threads that wait

A call that no other thread disturbs comes to what `Binding.start`, `Binding.write` and
`Binding.stop` come to (`perform_of_alone`). Threads never block each other for good: where none
of them has a step, all their calls are over (`finished_of_stuck`).
-/

namespace LogOrigin.Binding

open Relation

/-- The call reports the state. -/
def Call.reports : Call → Bool
  | start | state => true
  | write _ | stop => false

variable {ι σ : Type} [Sink σ] {t : ι} {n : Nat}

/-- Steps of one thread while it is in a call. -/
abbrev Alone (t : ι) (n : Nat) : Shared ι σ × Position → Shared ι σ × Position → Prop :=
  ReflTransGen fun x y => advance t n none x.1 x.2 = some y

/-- The binding and the sink have become these, and nobody began or ended registering. -/
structure Shared.Becomes (s s' : Shared ι σ) (b : Binding × σ) : Prop where
  binding : s'.binding = b.1
  sink : s'.sink = b.2
  registering : s'.registering = s.registering

/-- Giving the registration back. -/
theorem alone_release (s : Shared ι σ) (k : Return) :
    ∃ s', Alone t n (s, .release k) (s', k.position) ∧
      s.Becomes s' (s.binding.release s.sink) := by
  cases hr : s.binding.registration with
  | granted h =>
    have hfirst : Alone t n (s, .release k) (s, .claim k h) :=
      .single (by simp only [advance, hr])
    cases hrel : s.binding.released with
    | true =>
      refine ⟨s, hfirst.tail (by simp [advance, hrel]), ?_⟩
      simp only [release, hr, hrel]
      exact ⟨rfl, rfl, rfl⟩
    | false =>
      have hsecond := hfirst.tail (c := ({ s with
        binding := { s.binding with released := true } }, .shutdown k h)) (by simp [advance, hrel])
      refine ⟨_, hsecond.tail rfl, ?_⟩
      simp only [release, hr, hrel]
      exact ⟨rfl, rfl, rfl⟩
  | pending =>
    refine ⟨s, .single (by simp only [advance, hr]), ?_⟩
    simp only [release, hr]
    exact ⟨rfl, rfl, rfl⟩
  | refused =>
    refine ⟨s, .single (by simp only [advance, hr]), ?_⟩
    simp only [release, hr]
    exact ⟨rfl, rfl, rfl⟩

/-- Stopping. -/
theorem alone_halt (s : Shared ι σ) (k : Return) :
    ∃ s', Alone t n (s, .halt k) (s', k.position) ∧ s.Becomes s' (s.binding.stop s.sink) := by
  cases hst : s.binding.stopped with
  | true =>
    refine ⟨s, .single (by simp [advance, hst]), ?_⟩
    simp only [stop, hst]
    exact ⟨rfl, rfl, rfl⟩
  | false =>
    obtain ⟨s', hsteps, hs'⟩ := alone_release (t := t) (n := n)
      { s with binding := { s.binding with stopped := true } } k
    refine ⟨s', hsteps.head (by simp [advance, hst]), ?_⟩
    simp only [stop, hst]
    exact ⟨hs'.binding, hs'.sink, hs'.registering⟩

/-- Reporting the state. -/
theorem alone_report (s : Shared ι σ) :
    Alone t n (s, .checkState) (s.note (.reported t n s.binding.state), .idle) := by
  cases hst : s.binding.stopped with
  | true => exact .single (by simp [advance, hst, Binding.state])
  | false =>
    have hfirst : Alone t n (s, .checkState) (s, .readState) :=
      .single (by simp [advance, hst])
    refine hfirst.tail ?_
    cases hr : s.binding.registration <;> simp [advance, hst, hr, Binding.state, Registration.state]

/-- Letting the others see the answer. -/
theorem alone_answer (s : Shared ι σ) (p : Purpose) (answer : Except SinkError Handle) :
    ∃ s', Alone t n (s, .register p answer) (s', .recheck p s'.binding.handle?) ∧
      s'.binding = { s.binding with registration := .ofAnswer answer } ∧ s'.sink = s.sink ∧
      s'.registering = false := by
  let s' := { s.note (.ofAnswer answer) with
    binding := { s.binding with registration := .ofAnswer answer }
    registering := false }
  have hhandle : answer.toOption = s'.binding.handle? := by cases answer <;> rfl
  have hfirst : Alone t n (s, .register p answer)
      (s.note (.ofAnswer answer), .publish p answer) := .single rfl
  exact ⟨s', hhandle ▸ hfirst.tail rfl, rfl, rfl, rfl⟩

/-- Registering, if that has not been attempted. -/
theorem alone_register (s : Shared ι σ) (p : Purpose) (hreg : s.registering = false)
    (hst : s.binding.stopped = false) :
    ∃ s', Alone t n (s, .await p) (s', .recheck p s'.binding.handle?) ∧
      s.Becomes s' (s.binding.register s.sink) := by
  cases hr : s.binding.registration with
  | granted h =>
    refine ⟨s, .single (by simp only [advance, hr, handle?]), ?_⟩
    simp only [register, hr]
    exact ⟨rfl, rfl, rfl⟩
  | refused =>
    refine ⟨s, .single (by simp only [advance, hr, handle?]), ?_⟩
    simp only [register, hr]
    exact ⟨rfl, rfl, rfl⟩
  | pending =>
    let attempt := Sink.start s.binding.logSystem s.sink
    let asked := { s with registering := true, sink := attempt.sink }.note .start
    -- The sink may stop the binding first; either way it still answers.
    have hmiddle : ∃ s', Alone t n (s, .await p) (s', .register p attempt.result) ∧
        s'.binding = { s.binding with stopped := s.binding.stopped || attempt.stopsCaller } ∧
        s'.sink = attempt.sink := by
      cases hstops : attempt.stopsCaller with
      | true =>
        have hfirst : Alone t n (s, .await p) (asked, .halt (.sink p attempt.result)) :=
          .single (by simp [advance, hr, hreg, attempt, asked, hstops])
        obtain ⟨s', hsteps, hs'⟩ :=
          alone_halt (t := t) (n := n) asked (.sink p attempt.result)
        have hstop : asked.binding.stop asked.sink =
            ({ s.binding with stopped := true }, attempt.sink) := by
          simp [asked, Shared.note, stop, hst, release, hr]
        refine ⟨s', hfirst.trans hsteps, ?_, ?_⟩
        · rw [hs'.binding, hstop, Bool.or_true]
        · rw [hs'.sink, hstop]
      | false =>
        refine ⟨asked, .single (by simp [advance, hr, hreg, attempt, asked, hstops]), ?_, rfl⟩
        rw [Bool.or_false]
        rfl
    obtain ⟨s₁, hsteps₁, hb₁, hsink₁⟩ := hmiddle
    obtain ⟨s₂, hsteps₂, hb₂, hsink₂, hreg₂⟩ :=
      alone_answer (t := t) (n := n) s₁ p attempt.result
    refine ⟨s₂, hsteps₁.trans hsteps₂, ?_⟩
    rw [register_of_pending hr]
    exact ⟨by rw [hb₂, hb₁], hsink₂.trans hsink₁, hreg₂.trans hreg.symm⟩

/-- Registering if need be, up to where the call looks again whether the binding is stopped. -/
theorem alone_check (s : Shared ι σ) (p : Purpose) (hreg : s.registering = false) :
    ∃ s', (Alone t n (s, .check p) (s', p.withoutHandle.position) ∧
        (s.binding.ensureStarted s.sink).2.2 = none ∨
      s'.binding.stopped = false ∧
      Alone t n (s, .check p) (s', .recheck p s'.binding.handle?) ∧
        (s.binding.ensureStarted s.sink).2.2 = s'.binding.handle?) ∧
      s.Becomes s' ((s.binding.ensureStarted s.sink).1, (s.binding.ensureStarted s.sink).2.1) := by
  cases hst : s.binding.stopped with
  | true =>
    refine ⟨s, .inl ⟨.single (by simp [advance, hst]), ?_⟩, ?_⟩
    · simp [ensureStarted, hst]
    · simp only [ensureStarted, hst]
      exact ⟨rfl, rfl, rfl⟩
  | false =>
    have hfirst : Alone t n (s, .check p) (s, .await p) := .single (by simp [advance, hst])
    obtain ⟨s₁, hsteps₁, hs₁⟩ := alone_register (t := t) (n := n) s p hreg hst
    have hb : s.binding.register s.sink = (s₁.binding, s₁.sink) := by
      rw [hs₁.binding, hs₁.sink]
    cases hst₁ : s₁.binding.stopped with
    | true =>
      have hsecond := (hfirst.trans hsteps₁).tail (c := (s₁, .release p.withoutHandle))
        (by simp [advance, hst₁])
      obtain ⟨s₂, hsteps₂, hs₂⟩ :=
        alone_release (t := t) (n := n) s₁ p.withoutHandle
      refine ⟨s₂, .inl ⟨hsecond.trans hsteps₂, ?_⟩, ?_⟩
      · simp [ensureStarted, hst, hb, hst₁]
      · simp only [ensureStarted, hst, hb, hst₁]
        exact ⟨hs₂.binding, hs₂.sink, hs₂.registering.trans hs₁.registering⟩
    | false =>
      refine ⟨s₁, .inr ⟨hst₁, hfirst.trans hsteps₁, ?_⟩, ?_⟩
      · simp [ensureStarted, hst, hb, hst₁]
      · simp only [ensureStarted, hst, hb, hst₁]
        exact ⟨rfl, rfl, hs₁.registering⟩

/-- A call that no other thread disturbs comes to what the binding does in one piece, and reports the
state that it leaves. -/
theorem perform_of_alone (s : Shared ι σ) (c : Call) (hreg : s.registering = false) :
    ∃ s', Alone t n (s, c.entry) (s', .idle) ∧
      s.Becomes s' (c.perform s.binding s.sink) ∧
      (c.reports = true → s'.log.getLast? = some (.reported t n s'.binding.state)) := by
  have hnote : ∀ s : Shared ι σ,
      (s.note (.reported t n s.binding.state)).log.getLast? =
        some (.reported t n s.binding.state) := fun s => List.getLast?_concat ..
  cases c with
  | stop =>
    obtain ⟨s', hsteps, hs'⟩ := alone_halt (t := t) (n := n) s .done
    exact ⟨s', hsteps, hs', fun h => by cases h⟩
  | state => exact ⟨_, alone_report s, ⟨rfl, rfl, rfl⟩, fun _ => hnote s⟩
  | start =>
    obtain ⟨s', hcall, hs'⟩ := alone_check (t := t) (n := n) s .start hreg
    have hsteps : Alone t n (s, .check .start) (s', .checkState) := by
      rcases hcall with ⟨hsteps, -⟩ | ⟨hst, hsteps, -⟩
      · exact hsteps
      · exact hsteps.tail (by simp [advance, hst])
    exact ⟨_, hsteps.trans (alone_report s'), ⟨hs'.binding, hs'.sink, hs'.registering⟩,
      fun _ => hnote s'⟩
  | write r =>
    obtain ⟨s', hcall, hs'⟩ := alone_check (t := t) (n := n) s (.write r) hreg
    obtain ⟨b, sink, handle?, hens⟩ :
        ∃ b sink handle?, s.binding.ensureStarted s.sink = (b, sink, handle?) := ⟨_, _, _, rfl⟩
    simp only [hens] at hcall hs'
    show ∃ s', _ ∧ s.Becomes s' (s.binding.write r s.sink) ∧ _
    simp only [Binding.write, hens]
    rcases hcall with ⟨hsteps, hnone⟩ | ⟨hst, hsteps, hsome⟩
    · subst hnone
      exact ⟨s', hsteps, hs', fun h => by cases h⟩
    · rw [← hsome] at hsteps
      cases handle? with
      | none => exact ⟨s', hsteps.tail (by simp [advance, hst]), hs', fun h => by cases h⟩
      | some h =>
        have hforward : Alone t n (s, .check (.write r)) (s', .forward h r) :=
          hsteps.tail (by simp [advance, hst])
        refine ⟨_, hforward.tail rfl, ⟨hs'.binding, ?_, hs'.registering⟩, fun h => by cases h⟩
        exact congrArg (Sink.write h r) hs'.sink

/-! ## Waiting -/

/-- A thread in the middle of a call has a step, unless it waits for another that registers. -/
theorem registering_of_stuck {next? : Option Call} {s : Shared ι σ} {pos : Position}
    (h : advance t n next? s pos = none) :
    (pos = .idle ∧ next? = none) ∨ (∃ p, pos = .await p) ∧ s.registering = true := by
  cases pos with
  | idle => exact .inl ⟨rfl, Option.map_eq_none_iff.mp h⟩
  | await p =>
    simp only [advance] at h
    split at h
    · cases h
    · cases h
    · split at h
      · rename_i hreg; exact .inr ⟨⟨p, rfl⟩, hreg⟩
      · cases h
  | check p => cases h
  | register p answer => cases h
  | publish p answer => cases h
  | recheck p handle? => cases h
  | forward g r => cases h
  | halt k => simp only [advance] at h; split at h <;> cases h
  | release k => simp only [advance] at h; split at h <;> cases h
  | claim k g => simp only [advance] at h; split at h <;> cases h
  | shutdown k g => cases h
  | checkState => simp only [advance] at h; split at h <;> cases h
  | readState => cases h

/-- Where no thread has a step, every thread has finished its calls: whoever waits for the
registration waits for a thread that has a step. -/
theorem Threads.Sound.finished_of_stuck [DecidableEq ι] {programs : ι → List Call}
    {m : Threads ι σ} (hm : m.Sound) (hstuck : ∀ t, m.step programs t = none) (t : ι) :
    m.position t = .idle ∧ (programs t).length ≤ m.finished t := by
  have hadv : ∀ u, advance u (m.finished u) (programs u)[m.finished u]? m.shared (m.position u) =
      none := fun u => Option.map_eq_none_iff.mp (hstuck u)
  rcases registering_of_stuck (hadv t) with ⟨hidle, hnext⟩ | ⟨-, hreg⟩
  · exact ⟨hidle, List.getElem?_eq_none_iff.mp hnext⟩
  · obtain ⟨u, hu⟩ := hm.registering hreg
    rcases registering_of_stuck (hadv u) with ⟨hidle, -⟩ | ⟨⟨p, hwait⟩, -⟩
    · rw [hidle] at hu; cases hu
    · rw [hwait] at hu; cases hu

end LogOrigin.Binding
