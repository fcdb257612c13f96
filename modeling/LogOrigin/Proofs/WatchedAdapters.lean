import LogOrigin.Proofs.AdapterCalls
import LogOrigin.Sink.Watched

/-!
# Adapters over a watched sink

What the sink hears of each use of a binding (`Binding.Does`), and how that goes together with what
the bindings know (`AdapterSet.Heard`).
-/

namespace LogOrigin

open Framework (all)
open SinkCall (answersTo records)

/-- The state that an answer leaves an adapter in. -/
def Answer.state (a : Answer) : AdapterState :=
  if a.stopsCaller then .stopped else if a.granted then .started else .failed

/-- The verdicts that a registration rests on: one, unless none has been asked for. -/
def Registration.verdicts : Registration → List Bool
  | .pending => []
  | .refused => [false]
  | .granted _ => [true]

namespace Binding

/-- What a call makes of a binding, and what the sink hears of it. A record is only written through
a binding that is started. -/
inductive Does (b : Binding) : Call → Binding → List SinkCall → Prop where
  | again (hn : b.state ≠ .uninitialized) : Does b .start b []
  | granted (h : Handle) (hu : b.state = .uninitialized) :
      Does b .start { b with registration := .granted h } [.start b.logSystem ⟨true, false⟩]
  /-- The sink refuses, and may have stopped the binding. -/
  | refused (stops : Bool) (hu : b.state = .uninitialized) :
      Does b .start { b with registration := .refused, stopped := stops }
        [.start b.logSystem ⟨false, stops⟩]
  /-- The sink gets back at once what it grants, as it has stopped the binding. -/
  | returned (h : Handle) (hu : b.state = .uninitialized) :
      Does b .start { b with registration := .granted h, stopped := true, released := true }
        [.start b.logSystem ⟨true, true⟩, .shutdown h]
  | wrote (h : Handle) (r : LogRecord) (hst : b.state = .started) :
      Does b (.write r) b [.write h r]
  | marked (hn : b.state ≠ .started) : Does b .stop { b with stopped := true } []
  | ended (h : Handle) (hst : b.state = .started) :
      Does b .stop { b with stopped := true, released := true } [.shutdown h]

/-- The record that a call writes. -/
def Call.record? : Call → Option LogRecord
  | write r => some r
  | _ => none

variable {σ : Type} [Sink σ] {b : Binding}

/-- A binding that has not been started asks the sink, which notes its answer. -/
theorem start_of_uninitialized (hu : b.state = .uninitialized) (w : WatchedSink σ)
    (hstops : (Sink.start b.logSystem w.inner).stopsCaller = false) :
    b.start w =
      ({ b with registration := .ofAnswer (Sink.start b.logSystem w.inner).result },
        w.note (.start b.logSystem ⟨(Sink.start b.logSystem w.inner).result.isOk, false⟩)
          (Sink.start b.logSystem w.inner).sink) := by
  have hens := ensureStarted_of_uninitialized w hu hstops
  have hnote : (Sink.start b.logSystem w).sink =
      w.note (.start b.logSystem ⟨(Sink.start b.logSystem w.inner).result.isOk, false⟩)
        (Sink.start b.logSystem w.inner).sink := by
    rw [← hstops]
    rfl
  simp only [start, hens, hnote]
  rfl

/-- If the sink stops the binding meanwhile, the binding gives back what it is granted. -/
theorem start_of_stopsCaller (hu : b.state = .uninitialized) (w : WatchedSink σ)
    (hstops : (Sink.start b.logSystem w.inner).stopsCaller = true) :
    b.start w =
      release
        { b with
          registration := .ofAnswer (Sink.start b.logSystem w.inner).result
          stopped := true }
        (w.note (.start b.logSystem ⟨(Sink.start b.logSystem w.inner).result.isOk, true⟩)
          (Sink.start b.logSystem w.inner).sink) := by
  have hens := ensureStarted_of_stopsCaller w hu hstops
  have hnote : (Sink.start b.logSystem w).sink =
      w.note (.start b.logSystem ⟨(Sink.start b.logSystem w.inner).result.isOk, true⟩)
        (Sink.start b.logSystem w.inner).sink := by
    rw [← hstops]
    rfl
  simp only [start, hens, hnote]
  rfl

/-- Starting a binding registers, if that has not been attempted. -/
theorem does_start (hb : b.Settled) (w : WatchedSink σ) :
    ∃ heard, b.Does .start (b.start w).1 heard ∧ (b.start w).2.calls = w.calls ++ heard := by
  by_cases hu : b.state = .uninitialized
  · have hreleased := released_of_uninitialized hb hu
    obtain ⟨hstopped, -⟩ := state_eq_uninitialized_iff.mp hu
    cases hstops : (Sink.start b.logSystem w.inner).stopsCaller with
    | false =>
      rw [start_of_uninitialized hu w hstops]
      cases hresult : (Sink.start b.logSystem w.inner).result with
      | ok h => exact ⟨_, .granted h hu, rfl⟩
      | error e =>
        have hdoes := Does.refused false hu
        have hsame : { b with registration := .refused, stopped := false } =
            { b with registration := .refused } := by rw [← hstopped]
        rw [hsame] at hdoes
        exact ⟨_, hdoes, rfl⟩
    | true =>
      rw [start_of_stopsCaller hu w hstops]
      cases hresult : (Sink.start b.logSystem w.inner).result with
      | ok h =>
        simp only [release, Registration.ofAnswer, hreleased]
        exact ⟨_, .returned h hu, List.append_assoc _ _ _⟩
      | error e => exact ⟨_, .refused true hu, rfl⟩
  · have hsame : b.start w = (b, w) := by
      by_cases hst : b.state = .started
      · obtain ⟨hstopped, h, hg⟩ := state_eq_started_iff.mp hst
        simp only [start, ensureStarted_of_granted hstopped hg]
      · simp only [start, ensureStarted_of_over hu hst]
    rw [hsame]
    exact ⟨[], .again hu, (List.append_nil _).symm⟩

/-- A binding that is started hands its record to the sink. -/
theorem does_write (hst : b.state = .started) (r : LogRecord) (w : WatchedSink σ) :
    ∃ heard, b.Does (.write r) (b.write r w).1 heard ∧
      (b.write r w).2.calls = w.calls ++ heard := by
  obtain ⟨hstopped, h, hg⟩ := state_eq_started_iff.mp hst
  have hwrite : b.write r w = (b, Sink.write h r w) := by
    simp only [write, ensureStarted_of_granted hstopped hg]
  rw [hwrite]
  exact ⟨[.write h r], .wrote h r hst, rfl⟩

/-- Stopping a binding gives back what it has. -/
theorem does_stop (hb : b.Settled) (w : WatchedSink σ) :
    ∃ heard, b.Does .stop (b.stop w).1 heard ∧ (b.stop w).2.calls = w.calls ++ heard := by
  by_cases hst : b.state = .started
  · obtain ⟨hstopped, h, hg⟩ := state_eq_started_iff.mp hst
    rw [stop_of_granted w hb hstopped hg]
    exact ⟨[.shutdown h], .ended h hst, rfl⟩
  · rw [stop_of_not_started w hst]
    exact ⟨[], .marked hst, (List.append_nil _).symm⟩

/-! ## What the sink hears and what the binding knows -/

section Does

variable {c : Call} {b' : Binding} {heard : List SinkCall}

theorem Does.logSystem (hd : b.Does c b' heard) : b'.logSystem = b.logSystem := by
  cases hd <;> rfl

theorem Does.records (hd : b.Does c b' heard) : records heard = c.record?.toList := by
  cases hd <;> rfl

theorem Does.settled (hd : b.Does c b' heard) (hb : b.Settled) : b'.Settled := by
  cases hd with
  | again hn => exact hb
  | granted h hu => exact settled_grant hb hu h
  | refused stops hu =>
    have hreleased := released_of_uninitialized hb hu
    show b.released = (stops && false)
    rw [hreleased, Bool.and_false]
  | returned h hu => exact settled_end (b := { b with registration := .granted h }) rfl
  | wrote h r hst => exact hb
  | marked hn => exact settled_mark hb hn
  | ended h hst =>
    obtain ⟨-, g, hg⟩ := state_eq_started_iff.mp hst
    exact settled_end hg

/-- The registration rests on the verdicts that the log system has heard. -/
theorem Does.verdicts (hd : b.Does c b' heard) :
    b'.registration.verdicts =
      b.registration.verdicts ++ (answersTo b.logSystem heard).map Answer.granted := by
  have hpending : b.state = .uninitialized → b.registration = .pending :=
    fun hu => (state_eq_uninitialized_iff.mp hu).2
  cases hd with
  | granted h hu | refused stops hu | returned h hu =>
    rw [hpending hu]
    simp [answersTo, SinkCall.answerTo?, Registration.verdicts]
  | again hn | wrote h r hst | marked hn | ended h hst => exact (List.append_nil _).symm

/-- No other log system hears an answer. -/
theorem Does.answersTo_of_ne (hd : b.Does c b' heard) {logSystem : String}
    (hne : b.logSystem ≠ logSystem) : answersTo logSystem heard = [] := by
  cases hd <;> simp [answersTo, SinkCall.answerTo?, hne]

/-- What is shut down has been given back. -/
theorem Does.shutdowns (hd : b.Does c b' heard) (hb : b.Settled) :
    b'.released.toNat = b.released.toNat + heard.countP SinkCall.isShutdown := by
  cases hd with
  | again hn | granted h hu | refused stops hu | wrote h r hst | marked hn => rfl
  | returned h hu =>
    rw [released_of_uninitialized hb hu]
    rfl
  | ended h hst =>
    rw [hb, (state_eq_started_iff.mp hst).1]
    rfl

/-- A start asks for an answer if none has been asked for, and the state follows from it. -/
theorem Does.start (hd : b.Does .start b' heard) :
    if b.state = .uninitialized then
      ∃ a : Answer, answersTo b.logSystem heard = [a] ∧ b'.state = a.state
    else answersTo b.logSystem heard = [] ∧ b'.state = b.state := by
  cases hd with
  | again hn =>
    rw [if_neg hn]
    exact ⟨rfl, rfl⟩
  | granted h hu =>
    rw [if_pos hu]
    exact ⟨⟨true, false⟩, by simp [answersTo, SinkCall.answerTo?], state_grant hu h⟩
  | refused stops hu =>
    rw [if_pos hu]
    exact ⟨⟨false, stops⟩, by simp [answersTo, SinkCall.answerTo?], by cases stops <;> rfl⟩
  | returned h hu =>
    rw [if_pos hu]
    exact ⟨⟨true, true⟩, by simp [answersTo, SinkCall.answerTo?], rfl⟩

theorem Does.write {r : LogRecord} (hd : b.Does (.write r) b' heard) :
    b.state = .started ∧ answersTo b.logSystem heard = [] ∧ b'.state = b.state := by
  cases hd with
  | wrote h r hst => exact ⟨hst, rfl, rfl⟩

theorem Does.stop (hd : b.Does .stop b' heard) :
    answersTo b.logSystem heard = [] ∧ b'.state = .stopped := by
  cases hd <;> exact ⟨rfl, rfl⟩

end Does

end Binding

namespace AdapterSet

variable {σ : Type} {s s' : AdapterSet (WatchedSink σ)} {f : Framework} {c : Binding.Call}

/-- Adapter `f` has its binding do what a call asks for. -/
def Acts (f : Framework) (c : Binding.Call) (s s' : AdapterSet (WatchedSink σ)) : Prop :=
  ∃ b heard, (s.bindings.get f).Does c b heard ∧ s'.bindings = s.bindings.set f b ∧
    s'.sink.calls = s.sink.calls ++ heard

/-- What the bindings know goes together with what the sink has heard. -/
structure Heard (s : AdapterSet (WatchedSink σ)) : Prop where
  named : ∀ f, (s.bindings.get f).logSystem = f.logSystem
  settled : ∀ f, (s.bindings.get f).Settled
  verdicts : ∀ f, (answersTo f.logSystem s.sink.calls).map Answer.granted =
    (s.bindings.get f).registration.verdicts
  shutdowns : s.sink.calls.countP SinkCall.isShutdown =
    all.countP fun f => (s.bindings.get f).released

/-- Every call keeps together what the bindings know and what the sink has heard. -/
theorem Heard.acts (hs : s.Heard) (ha : Acts f c s s') : s'.Heard := by
  obtain ⟨b, heard, hdoes, hb, hcalls⟩ := ha
  have hself : s'.bindings.get f = b := by rw [hb, PerFramework.get_set_self]
  have hother : ∀ g, g ≠ f → s'.bindings.get g = s.bindings.get g := by
    intro g hg
    rw [hb, PerFramework.get_set_of_ne _ _ hg]
  -- an adapter other than `f` keeps its binding, and hears no answer
  refine ⟨fun g => ?_, fun g => ?_, fun g => ?_, ?_⟩
  · by_cases hg : g = f
    · rw [hg, hself, hdoes.logSystem, hs.named]
    · rw [hother g hg, hs.named]
  · by_cases hg : g = f
    · rw [hg, hself]
      exact hdoes.settled (hs.settled f)
    · rw [hother g hg]
      exact hs.settled g
  · rw [hcalls, SinkCall.answersTo_append, List.map_append]
    by_cases hg : g = f
    · rw [hg, hself, hdoes.verdicts, hs.verdicts, hs.named]
    · have hne : (s.bindings.get f).logSystem ≠ g.logSystem := by
        rw [hs.named]
        intro heq
        exact hg (Framework.logSystem_injective heq).symm
      rw [hdoes.answersTo_of_ne hne, hother g hg, hs.verdicts]
      exact List.append_nil _
  · have hcount := Framework.countP_all_change (fun g => (s.bindings.get g).released)
      (fun g => (s'.bindings.get g).released) (f := f) fun g hg => by rw [hother g hg]
    have hnew := hdoes.shutdowns (hs.settled f)
    rw [hself] at hcount
    rw [hcalls, List.countP_append, hs.shutdowns]
    omega

variable [Sink σ]

theorem Heard.acts_start (hs : s.Heard) (f : Framework) : Acts f .start s (s.start f) := by
  obtain ⟨heard, hdoes, hcalls⟩ := Binding.does_start (hs.settled f) s.sink
  exact ⟨_, heard, hdoes, rfl, hcalls⟩

theorem Heard.acts_stop (hs : s.Heard) (f : Framework) : Acts f .stop s (s.stop f) := by
  obtain ⟨heard, hdoes, hcalls⟩ := Binding.does_stop (hs.settled f) s.sink
  exact ⟨_, heard, hdoes, rfl, hcalls⟩

theorem acts_write (hst : s.state f = .started) (r : LogRecord) :
    Acts f (.write r) s (s.act f (·.write r)) := by
  obtain ⟨heard, hdoes, hcalls⟩ := Binding.does_write hst r s.sink
  exact ⟨_, heard, hdoes, rfl, hcalls⟩

end AdapterSet

end LogOrigin
