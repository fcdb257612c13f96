import LogOrigin.Proofs.BindingStep

/-!
# Bindings under concurrent calls: the registration is asked for once and given back once

What one step keeps, a run keeps: the shared state is consistent, every thread stands where what it
needs holds, and a registration that is due to be given back has a thread that will do it. The sink
calls that matter to the registration (`lifecycle`) then have one of five forms.
-/

namespace LogOrigin.Binding

variable {ι σ : Type} {s s' : Shared ι σ} {pos pos' q : Position}

/-- The invariant of threads that call one binding. -/
structure Threads.Sound (m : Threads ι σ) : Prop where
  consistent : m.shared.Consistent
  position : ∀ t, (m.position t).Sound m.shared
  one_registering : ∀ t u, (m.position t).isRegistering = true →
    (m.position u).isRegistering = true → t = u
  one_shuttingDown : ∀ t u, (m.position t).isShuttingDown = true →
    (m.position u).isShuttingDown = true → t = u
  /-- Whoever waits for the registration waits for a thread. -/
  registering : m.shared.registering = true → ∃ t, (m.position t).isRegistering = true
  /-- A registration that is marked as given back has been shut down or will be. -/
  released : m.shared.ShuttingDown → ∃ t, (m.position t).isShuttingDown = true
  /-- A registration of a stopped binding is given back or will be. -/
  stopped : m.shared.Owing → ∃ t, (m.position t).leadsToRelease = true

namespace Threads

variable [DecidableEq ι] [Sink σ] {programs : ι → List Call} {t : ι} {m m' : Threads ι σ}

/-- A step of the threads is a step of one of them. -/
theorem advances_of_step (h : m.step programs t = some m') :
    ∃ pos', Advances t (m.finished t) (programs t)[m.finished t]? m.shared (m.position t) m'.shared
        pos' ∧
      m'.position = Function.update m.position t pos' ∧
      m'.finished = if pos'.isIdle then Function.update m.finished t (m.finished t + 1)
        else m.finished := by
  rw [step, Option.map_eq_some_iff] at h
  obtain ⟨⟨shared, pos'⟩, hadv, rfl⟩ := h
  exact ⟨pos', advances_of_advance hadv, rfl, rfl⟩

omit [DecidableEq ι] [Sink σ] in
/-- The invariant holds before the first step. -/
theorem sound_initial (logSystem : String) (sink : σ) :
    (initial logSystem sink : Threads ι σ).Sound where
  consistent :=
    { registering := fun h => by cases h
      released := fun h => by cases h
      unasked := fun _ _ => rfl
      refused := fun h => by cases h
      kept := fun _ h => by cases h
      returned := fun _ h => by cases h }
  position _ := trivial
  one_registering _ _ h := by cases h
  one_shuttingDown _ _ h := by cases h
  registering h := by cases h
  released h := by obtain ⟨g, hg, -⟩ := h; cases hg
  stopped h := by cases h.1

omit [Sink σ] in
/-- What holds of one thread at most still does after a move of thread `t`, if it held of `t` before
or held of none. -/
theorem one_of_update {P : Position → Bool} {position : ι → Position} {pos' : Position}
    (hone : ∀ t u, P (position t) = true → P (position u) = true → t = u)
    (hkeep : P pos' = true → P (position t) = true ∨ ∀ u, P (position u) = false)
    (u v : ι) (hu : P (Function.update position t pos' u) = true)
    (hv : P (Function.update position t pos' v) = true) : u = v := by
  have hlone : ∀ w, w ≠ t → P pos' = true → P (position w) = true → False := by
    intro w hw hp hpw
    rcases hkeep hp with h | h
    · exact hw (hone w t hpw h)
    · rw [h w] at hpw; cases hpw
  by_cases hut : u = t
  · by_cases hvt : v = t
    · rw [hut, hvt]
    · rw [hut, Function.update_self] at hu
      rw [Function.update_of_ne hvt] at hv
      exact (hlone v hvt hu hv).elim
  · rw [Function.update_of_ne hut] at hu
    by_cases hvt : v = t
    · rw [hvt, Function.update_self] at hv
      exact (hlone u hut hv hu).elim
    · rw [Function.update_of_ne hvt] at hv
      exact hone u v hu hv

omit [Sink σ] in
/-- What holds of thread `t` after its move, or held of another before, holds of some thread. -/
theorem some_of_update {P : Position → Bool} {position : ι → Position} {pos' : Position}
    (h : P pos' = true ∨ (∃ u, P (position u) = true) ∧ P (position t) = false) :
    ∃ u, P (Function.update position t pos' u) = true := by
  rcases h with hself | ⟨⟨u, hu⟩, ht⟩
  · exact ⟨t, by rw [Function.update_self, hself]⟩
  · have hut : u ≠ t := by
      intro hut
      rw [hut, ht] at hu
      cases hu
    exact ⟨u, by rw [Function.update_of_ne hut, hu]⟩

omit [DecidableEq ι] [Sink σ] in
/-- Where nobody registers, no thread does. -/
theorem Sound.isRegistering_eq_false (hm : m.Sound) (h : m.shared.registering = false) (u : ι) :
    (m.position u).isRegistering = false := by
  refine Bool.eq_false_iff.mpr fun hreg => ?_
  rcases Position.registering_of_isRegistering (hm.position u) hreg with hr | ⟨answer, hr⟩
  · rw [hr.1] at h; cases h
  · rw [hr.1] at h; cases h

omit [DecidableEq ι] [Sink σ] in
/-- Where nothing has been given back, no thread is shutting down. -/
theorem Sound.isShuttingDown_eq_false (hm : m.Sound) (h : m.shared.binding.released = false)
    (u : ι) : (m.position u).isShuttingDown = false := by
  refine Bool.eq_false_iff.mpr fun hshut => ?_
  rw [Position.released_of_isShuttingDown (hm.position u) hshut] at h
  cases h

/-- Every step keeps the invariant. -/
theorem Sound.step (hm : m.Sound) (h : m.step programs t = some m') : m'.Sound := by
  obtain ⟨pos', hadv, hp, -⟩ := advances_of_step h
  have hc := change_of_advances hadv
  have hpos := hm.position t
  refine
    { consistent := hm.consistent.change hc hpos
      position := fun u => ?_
      one_registering := ?_
      one_shuttingDown := ?_
      registering := fun hreg => ?_
      released := fun hrel => ?_
      stopped := fun howing => ?_ }
  · by_cases hu : u = t
    · rw [hp, hu, Function.update_self]
      exact Position.sound_advances hadv hm.consistent hpos
    · rw [hp, Function.update_of_ne hu]
      refine Position.sound_other hc hpos (hm.position u) (fun hreg => ?_) fun hshut => ?_
      · exact Bool.eq_false_iff.mpr fun h => hu (hm.one_registering u t hreg h)
      · exact Bool.eq_false_iff.mpr fun h => hu (hm.one_shuttingDown u t hshut h)
  · rw [hp]
    refine one_of_update hm.one_registering fun hreg => ?_
    exact (isRegistering_of_change hc hreg).imp_right hm.isRegistering_eq_false
  · rw [hp]
    refine one_of_update hm.one_shuttingDown fun hshut => .inr ?_
    exact hm.isShuttingDown_eq_false (unreleased_of_change hc hshut)
  · rw [hp]
    exact some_of_update ((registering_after_change hc hreg).imp_right (And.imp_left hm.registering))
  · rw [hp]
    exact some_of_update
      ((shuttingDown_after_change hc hm.consistent hpos hrel).imp_right (And.imp_left hm.released))
  · rw [hp]
    exact some_of_update ((owing_after_change hc hpos howing).imp_right (And.imp_left hm.stopped))

/-- What every step keeps, a run keeps. -/
theorem run_induction {P : Threads ι σ → Prop}
    (hstep : ∀ m t m', P m → m.step programs t = some m' → P m') (hm : P m) (schedule : List ι) :
    P (m.run programs schedule) := by
  induction schedule generalizing m with
  | nil => exact hm
  | cons t schedule ih =>
    show P (Threads.run programs schedule ((m.step programs t).getD m))
    cases h : m.step programs t with
    | none => exact ih hm
    | some m' => exact ih (hstep m t m' hm h)

/-- The invariant holds all through a run. -/
theorem Sound.run (hm : m.Sound) (schedule : List ι) : (m.run programs schedule).Sound :=
  run_induction (fun _ _ _ hm h => hm.step h) hm schedule

theorem sound_run (programs : ι → List Call) (logSystem : String) (sink : σ) (schedule : List ι) :
    ((initial logSystem sink).run programs schedule).Sound :=
  Sound.run (sound_initial logSystem sink) schedule

end Threads

/-! ## The forms of the registration -/

/-- How far the registration has come, with the events that have been seen of it. -/
inductive Shared.Phase (s : Shared ι σ) : Prop where
  | unasked (hr : s.binding.registration = .pending) (hl : lifecycle s.log = [])
  | asked (hr : s.binding.registration = .pending) (hl : lifecycle s.log = [.start])
  | answered (answer : Except SinkError Handle) (hr : s.binding.registration = .pending)
      (hl : lifecycle s.log = [.start, .ofAnswer answer])
  | refused (e : SinkError) (hr : s.binding.registration = .refused)
      (hl : lifecycle s.log = [.start, .refused e])
  | granted (h : Handle) (hr : s.binding.registration = .granted h)
      (hl : lifecycle s.log = [.start, .granted h])
  | returned (h : Handle) (hr : s.binding.registration = .granted h)
      (hrel : s.binding.released = true) (hst : s.binding.stopped = true)
      (hl : lifecycle s.log = [.start, .granted h, .shutdown h])

theorem Threads.Sound.phase {m : Threads ι σ} (hm : m.Sound) : m.shared.Phase := by
  cases hr : m.shared.binding.registration with
  | pending =>
    cases hreg : m.shared.registering with
    | false => exact .unasked hr (hm.consistent.unasked hreg hr)
    | true =>
      obtain ⟨t, ht⟩ := hm.registering hreg
      rcases Position.registering_of_isRegistering (hm.position t) ht with h | ⟨answer, h⟩
      · exact .asked hr h.2.2
      · exact .answered answer hr h.2.2
  | refused =>
    obtain ⟨e, hl⟩ := hm.consistent.refused hr
    exact .refused e hr hl
  | granted h =>
    cases hrel : m.shared.binding.released with
    | false => exact .granted h hr (hm.consistent.kept h hr hrel)
    | true =>
      rcases hm.consistent.returned h hr hrel with hl | hl
      · exact .granted h hr hl
      · exact .returned h hr hrel (hm.consistent.released hrel).1 hl

/-- An event of the registration has happened if it is among the events of the registration. -/
theorem mem_log_iff {log : List (Event ι)} {e : Event ι} (he : e.isLifecycle = true) :
    e ∈ log ↔ e ∈ lifecycle log := by
  rw [lifecycle, List.mem_filter, and_iff_left he]

/-- What the registration has seen before an event of it. -/
theorem lifecycle_append_cons (pre post : List (Event ι)) {e : Event ι}
    (he : e.isLifecycle = true) :
    lifecycle (pre ++ e :: post) = lifecycle pre ++ e :: lifecycle post := by
  rw [lifecycle, List.filter_append, List.filter_cons_of_pos he]
  rfl

/-- The sink is asked for a registration. -/
def Event.isStart : Event ι → Bool
  | .start => true
  | _ => false

/-- The registration is shut down. -/
def Event.isShutdown : Event ι → Bool
  | .shutdown _ => true
  | _ => false

/-- Events of one kind are counted among the events of the registration. -/
theorem countP_lifecycle {p : Event ι → Bool} (hp : ∀ e, p e = true → e.isLifecycle = true)
    (log : List (Event ι)) : log.countP p = (lifecycle log).countP p := by
  rw [lifecycle, List.countP_filter]
  refine List.countP_congr fun e _ => ?_
  cases h : p e with
  | false => simp
  | true => simp [hp e h]

namespace Shared.Phase

/-- The events of the registration begin one of two courses. -/
theorem prefix_lifecycle (hs : s.Phase) :
    (∃ h, lifecycle s.log <+: [.start, .granted h, .shutdown h]) ∨
      ∃ e, lifecycle s.log <+: [.start, .refused e] := by
  cases hs with
  | unasked _ hl => exact .inl ⟨⟨0⟩, by rw [hl]; exact List.nil_prefix⟩
  | asked _ hl => exact .inl ⟨⟨0⟩, by rw [hl]; exact ⟨_, rfl⟩⟩
  | answered answer _ hl =>
    rw [hl]
    cases answer with
    | ok h => exact .inl ⟨h, _, rfl⟩
    | error e => exact .inr ⟨e, _, rfl⟩
  | refused e _ hl => exact .inr ⟨e, hl ▸ List.prefix_rfl⟩
  | granted h _ hl => exact .inl ⟨h, by rw [hl]; exact ⟨_, rfl⟩⟩
  | returned h _ _ _ hl => exact .inl ⟨h, hl ▸ List.prefix_rfl⟩

theorem countP_isStart (hs : s.Phase) : s.log.countP Event.isStart ≤ 1 := by
  have hp : ∀ e : Event ι, e.isStart = true → e.isLifecycle = true := by
    intro e he
    cases e <;> first | rfl | cases he
  rw [countP_lifecycle hp]
  rcases hs.prefix_lifecycle with ⟨h, hl⟩ | ⟨e, hl⟩
  · exact hl.sublist.countP_le
  · exact hl.sublist.countP_le

theorem countP_isShutdown (hs : s.Phase) : s.log.countP Event.isShutdown ≤ 1 := by
  have hp : ∀ e : Event ι, e.isShutdown = true → e.isLifecycle = true := by
    intro e he
    cases e <;> first | rfl | cases he
  rw [countP_lifecycle hp]
  rcases hs.prefix_lifecycle with ⟨h, hl⟩ | ⟨e, hl⟩
  · exact hl.sublist.countP_le
  · exact Nat.le_trans hl.sublist.countP_le (Nat.zero_le _)

/-- A registration is shut down after it was granted, and through its own handle. -/
theorem granted_mem_of_shutdown (hs : s.Phase) {pre post : List (Event ι)} {h : Handle}
    (hlog : s.log = pre ++ .shutdown h :: post) : .granted h ∈ pre := by
  have hsplit := lifecycle_append_cons pre post (e := .shutdown h) rfl
  rw [← hlog] at hsplit
  rw [mem_log_iff rfl]
  rcases hs.prefix_lifecycle with ⟨g, rest, hl⟩ | ⟨e, rest, hl⟩
  · rw [hsplit, List.append_assoc] at hl
    rcases hpre : lifecycle pre with _ | ⟨a, _ | ⟨b, tail⟩⟩
    · rw [hpre] at hl; cases hl
    · rw [hpre] at hl; cases hl
    · rw [hpre] at hl
      cases tail with
      | nil =>
        obtain ⟨-, rfl, rfl, -⟩ := by simpa using hl
        simp
      | cons c tail => simp at hl
  · rw [hsplit, List.append_assoc] at hl
    rcases hpre : lifecycle pre with _ | ⟨a, _ | ⟨b, tail⟩⟩
    · rw [hpre] at hl; cases hl
    · rw [hpre] at hl; cases hl
    · rw [hpre] at hl; simp at hl

/-- A registration that was refused was not granted. -/
theorem granted_not_mem_of_refused (hs : s.Phase) {e : SinkError} (he : .refused e ∈ s.log)
    (h : Handle) : .granted h ∉ s.log := by
  intro hh
  rw [mem_log_iff rfl] at he hh
  rcases hs.prefix_lifecycle with ⟨g, hl⟩ | ⟨e', hl⟩
  · have := hl.subset he
    simp at this
  · have := hl.subset hh
    simp at this

/-- The handle of a binding was granted to it, and no other was. -/
theorem granted_mem_iff (hs : s.Phase) {h : Handle}
    (hr : s.binding.registration = .granted h) (g : Handle) : .granted g ∈ s.log ↔ g = h := by
  rw [mem_log_iff rfl]
  cases hs with
  | unasked hr' => rw [hr] at hr'; cases hr'
  | asked hr' => rw [hr] at hr'; cases hr'
  | answered _ hr' => rw [hr] at hr'; cases hr'
  | refused _ hr' => rw [hr] at hr'; cases hr'
  | granted h' hr' hl => rw [hr] at hr'; cases hr'; rw [hl]; simp
  | returned h' hr' _ _ hl => rw [hr] at hr'; cases hr'; rw [hl]; simp

end Shared.Phase

/-- Once no call is in progress, a registration has been shut down if and only if it was granted
and the binding is stopped. -/
theorem Threads.Sound.shutdown_iff {m : Threads ι σ} (hm : m.Sound)
    (hidle : ∀ t, m.position t = .idle) :
    (∃ h, .shutdown h ∈ m.shared.log) ↔
      (∃ h, .granted h ∈ m.shared.log) ∧ m.shared.binding.stopped = true := by
  have hno : ∀ {P : Position → Bool}, P .idle = false → ¬∃ t, P (m.position t) = true := by
    rintro P hP ⟨t, ht⟩
    rw [hidle t, hP] at ht
    cases ht
  constructor
  · rintro ⟨h, hh⟩
    obtain ⟨pre, post, hlog⟩ := List.append_of_mem hh
    have hpre := hm.phase.granted_mem_of_shutdown hlog
    refine ⟨⟨h, by rw [hlog]; exact List.mem_append_left _ hpre⟩, ?_⟩
    rw [mem_log_iff rfl] at hh
    cases hm.phase with
    | unasked _ hl => rw [hl] at hh; cases hh
    | asked _ hl => rw [hl] at hh; simp at hh
    | answered answer _ hl => rw [hl] at hh; cases answer <;> simp [Event.ofAnswer] at hh
    | refused e _ hl => rw [hl] at hh; simp at hh
    | granted g _ hl => rw [hl] at hh; simp at hh
    | returned g _ _ hst => exact hst
  · rintro ⟨⟨h, hh⟩, hst⟩
    rw [mem_log_iff rfl] at hh
    have hgranted : ∃ g, m.shared.binding.registration = .granted g := by
      cases hr : m.shared.binding.registration with
      | granted g => exact ⟨g, rfl⟩
      | refused =>
        obtain ⟨e, hl⟩ := hm.consistent.refused hr
        rw [hl] at hh
        simp at hh
      | pending =>
        have hreg : m.shared.registering = false :=
          Bool.eq_false_iff.mpr fun h => hno rfl (hm.registering h)
        rw [hm.consistent.unasked hreg hr] at hh
        cases hh
    obtain ⟨g, hg⟩ := hgranted
    have hrel : m.shared.binding.released = true := by
      by_contra hrel
      exact hno rfl (hm.stopped ⟨hst, Bool.of_not_eq_true hrel, g, hg⟩)
    rcases hm.consistent.returned g hg hrel with hl | hl
    · exact (hno rfl (hm.released ⟨g, hg, hrel, hl⟩)).elim
    · exact ⟨g, by rw [mem_log_iff rfl, hl]; simp⟩

end LogOrigin.Binding
