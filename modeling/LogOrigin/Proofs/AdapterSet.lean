import LogOrigin.AdapterSet.Call
import LogOrigin.Proofs.AdapterCalls
import LogOrigin.Proofs.JsonLines
import Mathlib.Data.List.Nodup

/-!
# Adapters that share a sink of JSON lines

A call of an adapter comes to one or two moves (`Move`): a registration that is granted or refused,
a record, or the end of a registration. Every move keeps the sink's count of registrations and the
states of the three bindings together (`Coupled`), whether the file opens or not.
-/

namespace LogOrigin

open Framework (all)

namespace AdapterSet

variable {s s' : AdapterSet JsonLinesSink} {f : Framework} {r? : Option LogRecord}

/-- One thing that a call of adapter `f` does, and the record that it writes. -/
inductive Move (f : Framework) (s s' : AdapterSet JsonLinesSink) : Option LogRecord → Prop where
  | nothing (h : s' = s) : Move f s s' none
  | registered (hu : s.state f = .uninitialized) (hs : s.sink.Registers s'.sink)
      (hb : s'.bindings =
        s.bindings.set f { s.bindings.get f with registration := .granted ⟨s.sink.nextHandle⟩ }) :
      Move f s s' none
  | refused (cause : IoError) (hu : s.state f = .uninitialized) (hopen : s.sink.isOpen = false)
      (hr : s.sink.file.refusal = some cause) (hs : s'.sink = s.sink)
      (hb : s'.bindings = s.bindings.set f { s.bindings.get f with registration := .refused }) :
      Move f s s' none
  | wrote (r : LogRecord) (hst : s.state f = .started) (hs : s'.sink = s.sink.write r)
      (hb : s'.bindings = s.bindings) : Move f s s' (some r)
  | marked (hn : s.state f ≠ .started) (hs : s'.sink = s.sink)
      (hb : s'.bindings = s.bindings.set f { s.bindings.get f with stopped := true }) :
      Move f s s' none
  | ended (hst : s.state f = .started) (hs : s'.sink = s.sink.shutdown)
      (hb : s'.bindings =
        s.bindings.set f { s.bindings.get f with stopped := true, released := true }) :
      Move f s s' none

/-- How the bindings and the sink go together. -/
structure Coupled (s : AdapterSet JsonLinesSink) : Prop where
  settled : ∀ f, (s.bindings.get f).Settled
  registrations : s.sink.registrations = all.countP fun f => s.state f = .started
  opened : s.sink.isOpen = true ↔ 0 < s.sink.registrations
  issued : s.sink.nextHandle = (all.countP fun f => (s.bindings.get f).handle?.isSome) + 1
  below : ∀ f h, (s.bindings.get f).handle? = some h → 0 < h.id ∧ h.id < s.sink.nextHandle
  distinct : ∀ f g h, (s.bindings.get f).handle? = some h → (s.bindings.get g).handle? = some h →
    f = g

/-! ## A move keeps the bindings and the sink together -/

/-- The new binding of a framework has the handle of the old one, or the next one of the sink where
there was none. -/
def Hands (s s' : AdapterSet JsonLinesSink) (f : Framework) (b : Binding) : Prop :=
  b.handle? = (s.bindings.get f).handle? ∧ s'.sink.nextHandle = s.sink.nextHandle ∨
    (s.bindings.get f).handle? = none ∧ b.handle? = some ⟨s.sink.nextHandle⟩ ∧
      s'.sink.nextHandle = s.sink.nextHandle + 1

section Set

variable {b : Binding} (hs : s.Coupled) (hb : s'.bindings = s.bindings.set f b)
  (hhands : Hands s s' f b)

include hs hb

theorem Coupled.registrations_set
    (hregistrations : s'.sink.registrations + (decide (s.state f = .started)).toNat =
      s.sink.registrations + (decide (b.state = .started)).toNat) :
    s'.sink.registrations = all.countP fun g => s'.state g = .started := by
  have hcount := Framework.countP_all_change (fun g => decide (s.state g = .started))
    (fun g => decide (s'.state g = .started)) (f := f) fun g hg => by rw [state_set_of_ne hb hg]
  rw [state_set_self hb] at hcount
  have := hs.registrations
  omega

include hhands

theorem Coupled.issued_set :
    s'.sink.nextHandle = (all.countP fun g => (s'.bindings.get g).handle?.isSome) + 1 := by
  have hcount := Framework.countP_all_change (fun g => (s.bindings.get g).handle?.isSome)
    (fun g => (s'.bindings.get g).handle?.isSome) (f := f)
    fun g hg => by rw [hb, PerFramework.get_set_of_ne _ _ hg]
  have := hs.issued
  rw [hb, PerFramework.get_set_self, ← hb] at hcount
  rcases hhands with ⟨hsame, hnext⟩ | ⟨hnone, hsome, hnext⟩
  · rw [hsame] at hcount
    omega
  · rw [hnone, hsome] at hcount
    simp only [Option.isSome_none, Option.isSome_some, Bool.toNat_false, Bool.toNat_true] at hcount
    omega

theorem Coupled.below_set (g : Framework) (h : Handle) (hg : (s'.bindings.get g).handle? = some h) :
    0 < h.id ∧ h.id < s'.sink.nextHandle := by
  have hold : ∀ g, (s.bindings.get g).handle? = some h → 0 < h.id ∧ h.id < s'.sink.nextHandle := by
    intro g hg
    obtain ⟨hpos, hlt⟩ := hs.below g h hg
    rcases hhands with ⟨-, hnext⟩ | ⟨-, -, hnext⟩
    · exact ⟨hpos, by omega⟩
    · exact ⟨hpos, by omega⟩
  by_cases hgf : g = f
  · rw [hgf, hb, PerFramework.get_set_self] at hg
    rcases hhands with ⟨hsame, -⟩ | ⟨-, hsome, hnext⟩
    · exact hold f (hsame ▸ hg)
    · have := hs.issued
      rw [hsome] at hg
      cases hg
      rw [hnext]
      exact ⟨by show 0 < s.sink.nextHandle; omega, Nat.lt_succ_self _⟩
  · rw [hb, PerFramework.get_set_of_ne _ _ hgf] at hg
    exact hold g hg

theorem Coupled.distinct_set (g g' : Framework) (h : Handle)
    (hg : (s'.bindings.get g).handle? = some h) (hg' : (s'.bindings.get g').handle? = some h) :
    g = g' := by
  -- The new handle is above all others, so no other binding has the one of the new binding.
  have hclash : ∀ g, g ≠ f → b.handle? = some h → (s.bindings.get g).handle? = some h → False := by
    intro g hgf hnew hold
    rcases hhands with ⟨hsame, -⟩ | ⟨-, hsome, -⟩
    · exact hgf (hs.distinct g f h hold (hsame ▸ hnew))
    · rw [hsome] at hnew
      cases hnew
      exact Nat.lt_irrefl _ (hs.below g _ hold).2
  by_cases hgf : g = f
  · by_cases hgf' : g' = f
    · rw [hgf, hgf']
    · rw [hgf, hb, PerFramework.get_set_self] at hg
      rw [hb, PerFramework.get_set_of_ne _ _ hgf'] at hg'
      exact (hclash g' hgf' hg hg').elim
  · rw [hb, PerFramework.get_set_of_ne _ _ hgf] at hg
    by_cases hgf' : g' = f
    · rw [hgf', hb, PerFramework.get_set_self] at hg'
      exact (hclash g hgf hg' hg).elim
    · rw [hb, PerFramework.get_set_of_ne _ _ hgf'] at hg'
      exact hs.distinct g g' h hg hg'

/-- A new binding for one framework keeps everything together if the sink changes with it. -/
theorem Coupled.set (hsettled : b.Settled)
    (hregistrations : s'.sink.registrations + (decide (s.state f = .started)).toNat =
      s.sink.registrations + (decide (b.state = .started)).toNat)
    (hopened : s'.sink.isOpen = true ↔ 0 < s'.sink.registrations) : s'.Coupled where
  settled g := by
    by_cases hgf : g = f
    · rw [hgf, hb, PerFramework.get_set_self]
      exact hsettled
    · rw [hb, PerFramework.get_set_of_ne _ _ hgf]
      exact hs.settled g
  registrations := hs.registrations_set hb hregistrations
  opened := hopened
  issued := hs.issued_set hb hhands
  below := hs.below_set hb hhands
  distinct := hs.distinct_set hb hhands

end Set

theorem Coupled.registrations_pos (hs : s.Coupled) (hst : s.state f = .started) :
    0 < s.sink.registrations := by
  rw [hs.registrations, List.countP_pos_iff]
  exact ⟨f, by cases f <;> decide, by simpa using hst⟩

/-- What touches neither the bindings nor what the sink counts keeps everything together. -/
theorem Coupled.of_frame (hs : s.Coupled) (hb : s'.bindings = s.bindings)
    (hopen : s'.sink.isOpen = s.sink.isOpen)
    (hreg : s'.sink.registrations = s.sink.registrations)
    (hnext : s'.sink.nextHandle = s.sink.nextHandle) : s'.Coupled where
  settled := by rw [hb]; exact hs.settled
  registrations := by
    have hstate : s'.state = s.state := by
      funext f
      rw [state, hb, state]
    rw [hreg, hs.registrations, hstate]
  opened := by rw [hopen, hreg]; exact hs.opened
  issued := by rw [hnext, hb]; exact hs.issued
  below := by rw [hnext, hb]; exact hs.below
  distinct := by rw [hb]; exact hs.distinct

/-- Every move keeps the bindings and the sink together. -/
theorem Coupled.move (hs : s.Coupled) (hm : Move f s s' r?) : s'.Coupled := by
  cases hm with
  | nothing h => exact h ▸ hs
  | registered hu hreg hb =>
    have hhands : Hands s s' f
        { s.bindings.get f with registration := .granted ⟨s.sink.nextHandle⟩ } :=
      .inr ⟨Binding.handle?_of_uninitialized hu, rfl, hreg.nextHandle⟩
    refine hs.set hb hhands (Binding.settled_grant (hs.settled f) hu _) ?_ ?_
    · rw [hreg.registrations, Binding.state_grant hu, hu]
      rfl
    · rw [hreg.registrations]
      exact iff_of_true hreg.isOpen (Nat.succ_pos _)
  | refused cause hu hopen hr hsink hb =>
    have hhands : Hands s s' f { s.bindings.get f with registration := .refused } :=
      .inl ⟨(Binding.handle?_of_uninitialized hu).symm, by rw [hsink]⟩
    refine hs.set hb hhands (Binding.settled_refuse (hs.settled f) hu) ?_ ?_
    · rw [hsink, Binding.state_refuse hu, hu]
      rfl
    · rw [hsink]
      exact hs.opened
  | wrote r hst hsink hb =>
    obtain ⟨hopen, hreg, hnext⟩ := JsonLinesSink.write_frame r s.sink
    rw [← hsink] at hopen hreg hnext
    exact hs.of_frame hb hopen hreg hnext
  | marked hn hsink hb =>
    have hhands : Hands s s' f { s.bindings.get f with stopped := true } :=
      .inl ⟨rfl, by rw [hsink]⟩
    refine hs.set hb hhands (Binding.settled_mark (hs.settled f) hn) ?_ ?_
    · have hstate : Binding.state { s.bindings.get f with stopped := true } = .stopped := rfl
      rw [hsink, hstate, decide_eq_false hn]
      rfl
    · rw [hsink]
      exact hs.opened
  | ended hst hsink hb =>
    obtain ⟨-, h, hg⟩ := granted_of_started hst
    obtain ⟨hreg, hnext, -, hopen⟩ := JsonLinesSink.shutdown_frame s.sink
    have hpos := hs.registrations_pos hst
    rw [← hsink] at hreg hnext hopen
    have hhands : Hands s s' f { s.bindings.get f with stopped := true, released := true } :=
      .inl ⟨rfl, hnext⟩
    refine hs.set hb hhands (Binding.settled_end hg) ?_ ?_
    · have hstate : Binding.state
          { s.bindings.get f with stopped := true, released := true } = .stopped := rfl
      rw [hreg, hstate, hst]
      simp only [decide_true, Bool.toNat_true, reduceCtorEq, decide_false, Bool.toNat_false]
      omega
    · rw [hopen, hreg]
      exact and_iff_right_of_imp fun _ => hs.opened.mpr hpos

/-! ## What calls do -/

/-- An adapter that has not been started asks the sink. -/
theorem start_of_uninitialized (hu : s.state f = .uninitialized) :
    s.start f = { s with
      bindings := s.bindings.set f { s.bindings.get f with
        registration := .ofAnswer
          (JsonLinesSink.start (s.bindings.get f).logSystem s.sink).result }
      sink := (JsonLinesSink.start (s.bindings.get f).logSystem s.sink).sink } := by
  have hens := Binding.ensureStarted_of_uninitialized s.sink hu
    (JsonLinesSink.stopsCaller_start _ _)
  simp only [start, act, Binding.start, hens]
  rfl

/-- Starting an adapter comes to a registration that is granted or refused, or to nothing. -/
theorem move_start (s : AdapterSet JsonLinesSink) (f : Framework) : Move f s (s.start f) none := by
  by_cases hu : s.state f = .uninitialized
  · rw [start_of_uninitialized hu]
    obtain ⟨hres, hreg⟩ | ⟨cause, hopen, hr, heq⟩ :=
      JsonLinesSink.start_cases (s.bindings.get f).logSystem s.sink
    · rw [hres]
      exact .registered hu hreg rfl
    · rw [heq]
      exact .refused cause hu hopen hr rfl rfl
  · exact .nothing (start_of_not_uninitialized hu)

/-- A record for an adapter that is started goes to the sink. -/
theorem act_write_of_started (hs : s.state f = .started) (r : LogRecord) :
    s.act f (·.write r) = { s with sink := s.sink.write r } := by
  obtain ⟨hst, h, hg⟩ := granted_of_started hs
  have hwrite : (s.bindings.get f).write r s.sink = (s.bindings.get f, s.sink.write r) := by
    simp only [Binding.write, Binding.ensureStarted_of_granted hst hg]
    rfl
  simp only [act, hwrite, set_get]

/-- Stopping an adapter that is started ends its registration. -/
theorem stop_of_started (hs : s.Coupled) (hst : s.state f = .started) :
    s.stop f = { s with
      bindings := s.bindings.set f { s.bindings.get f with stopped := true, released := true }
      sink := s.sink.shutdown } := by
  obtain ⟨hn, h, hg⟩ := granted_of_started hst
  have hstop := Binding.stop_of_granted s.sink (hs.settled f) hn hg
  simp only [stop, act, hstop]
  rfl

/-- Stopping any other adapter only marks it. -/
theorem stop_of_not_started (hst : s.state f ≠ .started) :
    s.stop f = { s with
      bindings := s.bindings.set f { s.bindings.get f with stopped := true } } := by
  simp only [stop, act, Binding.stop_of_not_started s.sink hst]

/-- Stopping an adapter ends its registration, or marks it if there is none. -/
theorem move_stop (hs : s.Coupled) (f : Framework) : Move f s (s.stop f) none := by
  by_cases hst : s.state f = .started
  · rw [stop_of_started hs hst]
    exact .ended hst rfl rfl
  · rw [stop_of_not_started hst]
    exact .marked hst rfl rfl

/-- An event that is not filtered out makes its adapter start, and is written if that leaves the
adapter started. -/
theorem append_eq (s : AdapterSet JsonLinesSink) (now : Instant) {e : CapturedEvent}
    (hoff : e.isOff = false) :
    s.append now e =
      match (if (s.start e.framework).state e.framework = .started then s.normalize now e
        else none) with
      | some r => { s.start e.framework with sink := (s.start e.framework).sink.write r }
      | none => s.start e.framework := by
  simp only [append, hoff, Bool.false_eq_true, if_false]
  by_cases hst : (s.start e.framework).state e.framework = .started
  · rw [if_pos hst, if_pos hst, normalize_start]
    cases s.normalize now e with
    | none => rfl
    | some r => exact act_write_of_started hst r
  · rw [if_neg hst, if_neg hst]

/-- An event comes to a start and a record, if it leaves its adapter started. -/
theorem move_append (s : AdapterSet JsonLinesSink) (now : Instant) (e : CapturedEvent) :
    ∃ mid, Move e.framework s mid none ∧ Move e.framework mid (s.append now e)
      (if (s.append now e).state e.framework = .started then s.normalize now e else none) := by
  cases hoff : e.isOff with
  | true =>
    rw [normalize_of_isOff hoff, ite_self]
    exact ⟨s, .nothing rfl, .nothing (by simp only [append, hoff, if_true])⟩
  | false =>
    refine ⟨s.start e.framework, move_start s _, ?_⟩
    have hstate : (s.append now e).state e.framework =
        (s.start e.framework).state e.framework := by
      rw [append_eq s now hoff]
      split <;> rfl
    rw [hstate]
    by_cases hst : (s.start e.framework).state e.framework = .started
    · rw [append_eq s now hoff, if_pos hst]
      cases s.normalize now e with
      | none => exact .nothing rfl
      | some r => exact .wrote r hst rfl rfl
    · rw [append_eq s now hoff, if_neg hst]
      exact .nothing rfl

/-- Every call comes to at most two moves of one adapter, of which the second writes the record
that the call forwards. -/
theorem move_perform (hs : s.Coupled) (c : Call) :
    ∃ f mid, Move f s mid none ∧ Move f mid (s.perform c) (s.forwarded? c) := by
  cases c with
  | start f => exact ⟨f, s, .nothing rfl, move_start s f⟩
  | stop f => exact ⟨f, s, .nothing rfl, move_stop hs f⟩
  | dispatch now e => exact ⟨_, move_append s now e⟩
  | append now e? =>
    cases e? with
    | none => exact ⟨.log4j, s, .nothing rfl, .nothing rfl⟩
    | some e => exact ⟨_, move_append s now e⟩

theorem Coupled.perform (hs : s.Coupled) (c : Call) : (s.perform c).Coupled := by
  obtain ⟨f, mid, hfirst, hsecond⟩ := move_perform hs c
  exact (hs.move hfirst).move hsecond

/-! ## Runs -/

/-- From now on, the file refuses to open with this cause, or opens. -/
def refusing (refusal : Option IoError) (s : AdapterSet JsonLinesSink) : AdapterSet JsonLinesSink :=
  { s with sink := s.sink.refusing refusal }

/-- The adapters after calls, each of them with how the file answers to being opened. -/
def run (s : AdapterSet JsonLinesSink) (calls : List (Option IoError × Call)) :
    AdapterSet JsonLinesSink :=
  calls.foldl (fun s (refusal, c) => (s.refusing refusal).perform c) s

/-- The records that calls forward to the sink. -/
def forwarded (s : AdapterSet JsonLinesSink) : List (Option IoError × Call) → List LogRecord
  | [] => []
  | (refusal, c) :: calls =>
    ((s.refusing refusal).forwarded? c).toList ++
      ((s.refusing refusal).perform c).forwarded calls

theorem Coupled.refusing (hs : s.Coupled) (refusal : Option IoError) :
    (s.refusing refusal).Coupled := by
  obtain ⟨hopen, hreg, hnext, -⟩ := JsonLinesSink.refusing_frame refusal s.sink
  exact hs.of_frame rfl hopen hreg hnext

theorem Coupled.run (hs : s.Coupled) (calls : List (Option IoError × Call)) :
    (s.run calls).Coupled := by
  induction calls generalizing s with
  | nil => exact hs
  | cons call calls ih => exact ih ((hs.refusing call.1).perform call.2)

theorem coupled_ofConfig (config : Config) (stack : List StackFrame) (path : String)
    (file : OutputFile) : (ofConfig config stack (JsonLinesSink.ofFile path file)).Coupled where
  settled f := by cases f <;> rfl
  registrations := rfl
  opened := ⟨fun h => absurd h Bool.false_ne_true, fun h => absurd h (Nat.lt_irrefl 0)⟩
  issued := rfl
  below f h hh := by cases f <;> cases hh
  distinct f g h hh := by cases f <;> cases hh

/-! ## A file that does not open -/

/-- A start whose open fails marks the adapter, and nothing else changes. -/
theorem start_of_refusal (hu : s.state f = .uninitialized) (hopen : s.sink.isOpen = false)
    {cause : IoError} (hr : s.sink.file.refusal = some cause) :
    s.start f = { s with
      bindings := s.bindings.set f { s.bindings.get f with registration := .refused } } := by
  rw [start_of_uninitialized hu, JsonLinesSink.start_of_refusal _ hopen hr]
  rfl

theorem append_of_refusal {now : Instant} {e : CapturedEvent} (hoff : e.isOff = false)
    (hu : s.state e.framework = .uninitialized) (hopen : s.sink.isOpen = false) {cause : IoError}
    (hr : s.sink.file.refusal = some cause) :
    s.append now e = s.start e.framework := by
  have hfailed : (s.start e.framework).state e.framework = .failed := by
    rw [start_of_refusal hu hopen hr, state_set_self rfl]
    exact Binding.state_refuse hu
  rw [append_eq s now hoff, if_neg (by rw [hfailed]; decide)]

/-- Whichever call the start comes with. -/
theorem perform_of_refusal {c : Call} (hc : c.starts f = true) (hu : s.state f = .uninitialized)
    (hopen : s.sink.isOpen = false) {cause : IoError} (hr : s.sink.file.refusal = some cause) :
    s.perform c = s.start f := by
  have hevent : ∀ now (e : CapturedEvent), (!e.isOff && decide (e.framework = f)) = true →
      s.append now e = s.start f := by
    intro now e he
    rw [Bool.and_eq_true, Bool.not_eq_true', decide_eq_true_eq] at he
    obtain ⟨hoff, rfl⟩ := he
    exact append_of_refusal hoff hu hopen hr
  cases c with
  | start g => rw [of_decide_eq_true hc]; rfl
  | stop g => cases hc
  | dispatch now e => exact hevent now e hc
  | append now e? =>
    cases e? with
    | none => cases hc
    | some e => exact hevent now e hc

/-- A refused registration stays refused. -/
theorem refused_move {g : Framework} (hr : (s.bindings.get f).registration = .refused)
    (hm : Move g s s' r?) : (s'.bindings.get f).registration = .refused := by
  have hset : ∀ b : Binding, s'.bindings = s.bindings.set g b →
      (g = f → b.registration = .refused) → (s'.bindings.get f).registration = .refused := by
    intro b hb hself
    by_cases hgf : g = f
    · rw [hb, hgf, PerFramework.get_set_self]
      exact hself hgf
    · rw [hb, PerFramework.get_set_of_ne _ _ (Ne.symm hgf), hr]
  cases hm with
  | nothing h => rw [h, hr]
  | registered hu hs hb =>
    refine hset _ hb fun hgf => ?_
    rw [hgf] at hu
    rw [(Binding.state_eq_uninitialized_iff.mp hu).2] at hr
    cases hr
  | refused cause hu hopen hcause hs hb => exact hset _ hb fun _ => rfl
  | wrote r hst hs hb => rw [hb, hr]
  | marked hn hs hb => exact hset _ hb fun hgf => by rw [hgf]; exact hr
  | ended hst hs hb => exact hset _ hb fun hgf => by rw [hgf]; exact hr

/-- An adapter that failed to start is never started. -/
theorem Coupled.run_of_refused (hs : s.Coupled) (hr : (s.bindings.get f).registration = .refused)
    (calls : List (Option IoError × Call)) : (s.run calls).state f ≠ .started := by
  induction calls generalizing s with
  | nil =>
    intro hst
    obtain ⟨-, h, hg⟩ := granted_of_started (s := s) hst
    rw [hr] at hg
    cases hg
  | cons call calls ih =>
    obtain ⟨g, mid, hfirst, hsecond⟩ := move_perform (hs.refusing call.1) call.2
    have hr' : ((s.refusing call.1).bindings.get f).registration = .refused := hr
    exact ih ((hs.refusing call.1).perform call.2) (refused_move (refused_move hr' hfirst) hsecond)

/-! ## A file that takes everything -/

/-- The lines of records. -/
def lines (records : List LogRecord) : List UInt8 := records.flatMap LogRecord.line

/-- A move adds the line of the record that it writes, and no other move adds anything. -/
theorem Coupled.given_move (hs : s.Coupled) (hsound : s.sink.Sound) (hm : Move f s s' r?) :
    s'.sink.Sound ∧ s'.sink.given = s.sink.given ++ lines r?.toList ∧
      s'.sink.written = s.sink.written + r?.toList.length := by
  have hsame : s'.sink = s.sink → s'.sink.Sound ∧ s'.sink.given = s.sink.given ++ [] ∧
      s'.sink.written = s.sink.written + 0 := by
    intro h
    rw [h, List.append_nil]
    exact ⟨hsound, rfl, rfl⟩
  cases hm with
  | nothing h => exact hsame (by rw [h])
  | registered hu hreg hb =>
    obtain ⟨hsound', hgiven⟩ := hreg.sound hsound
    exact ⟨hsound', by rw [hgiven]; exact (List.append_nil _).symm, hreg.written⟩
  | refused cause hu hopen hr hsink hb => exact hsame hsink
  | wrote r hst hsink hb =>
    have hopen := hs.opened.mpr (hs.registrations_pos hst)
    obtain ⟨hgiven, hwritten, hsound'⟩ := JsonLinesSink.write_line r hsound hopen
    rw [hsink]
    refine ⟨hsound', ?_, hwritten⟩
    rw [hgiven]
    simp [lines]
  | marked hn hsink hb => exact hsame hsink
  | ended hst hsink hb =>
    obtain ⟨hgiven, hsound'⟩ := JsonLinesSink.shutdown_given hsound
    obtain ⟨-, -, hwritten, -⟩ := JsonLinesSink.shutdown_frame s.sink
    rw [hsink]
    exact ⟨hsound', by rw [hgiven]; exact (List.append_nil _).symm, hwritten⟩

/-- No move removes the file. -/
theorem Coupled.exists_move (hs : s.Coupled) (hsound : s.sink.Sound) (hfile : s.sink.file.Exists)
    (hm : Move f s s' r?) : s'.sink.file.Exists := by
  obtain ⟨hsound', -, -⟩ := hs.given_move hsound hm
  cases hm with
  | nothing h => rw [h]; exact hfile
  | registered hu hreg hb => exact JsonLinesSink.exists_of_isOpen hsound' hreg.isOpen
  | refused cause hu hopen hr hsink hb => rw [hsink]; exact hfile
  | wrote r hst hsink hb =>
    refine JsonLinesSink.exists_of_isOpen hsound' ?_
    rw [hsink, (JsonLinesSink.write_frame r s.sink).1]
    exact hs.opened.mpr (hs.registrations_pos hst)
  | marked hn hsink hb => rw [hsink]; exact hfile
  | ended hst hsink hb => rw [hsink]; exact JsonLinesSink.exists_shutdown hsound hfile

/-- A call adds the line of the record that it forwards. -/
theorem Coupled.given_perform (hs : s.Coupled) (hsound : s.sink.Sound) (c : Call) :
    (s.perform c).sink.Sound ∧
      (s.perform c).sink.given = s.sink.given ++ lines (s.forwarded? c).toList ∧
      (s.perform c).sink.written = s.sink.written + (s.forwarded? c).toList.length := by
  obtain ⟨f, mid, hfirst, hsecond⟩ := move_perform hs c
  obtain ⟨hsound₁, hgiven₁, hwritten₁⟩ := hs.given_move hsound hfirst
  obtain ⟨hsound₂, hgiven₂, hwritten₂⟩ := (hs.move hfirst).given_move hsound₁ hsecond
  refine ⟨hsound₂, ?_, ?_⟩
  · rw [hgiven₂, hgiven₁]
    simp [lines]
  · rw [hwritten₂, hwritten₁]
    rfl

/-- Calls add the lines of the records that they forward, in order. -/
theorem Coupled.given_run (hs : s.Coupled) (hsound : s.sink.Sound)
    (calls : List (Option IoError × Call)) :
    (s.run calls).sink.Sound ∧
      (s.run calls).sink.given = s.sink.given ++ lines (s.forwarded calls) ∧
      (s.run calls).sink.written = s.sink.written + (s.forwarded calls).length := by
  induction calls generalizing s with
  | nil => exact ⟨hsound, (List.append_nil _).symm, rfl⟩
  | cons call calls ih =>
    obtain ⟨refusal, c⟩ := call
    obtain ⟨-, -, -, hwritten₀, -, hgiven₀⟩ := JsonLinesSink.refusing_frame refusal s.sink
    obtain ⟨hsound₁, hgiven₁, hwritten₁⟩ := (hs.refusing refusal).given_perform
      (JsonLinesSink.sound_refusing refusal hsound) c
    obtain ⟨hsound₂, hgiven₂, hwritten₂⟩ := ih ((hs.refusing refusal).perform c) hsound₁
    refine ⟨hsound₂, ?_, ?_⟩
    · show ((s.refusing refusal).perform c |>.run calls).sink.given = _
      rw [hgiven₂, hgiven₁]
      show (s.sink.refusing refusal).given ++ _ ++ _ = _
      rw [hgiven₀]
      simp [lines, forwarded]
    · show ((s.refusing refusal).perform c |>.run calls).sink.written = _
      rw [hwritten₂, hwritten₁]
      show (s.sink.refusing refusal).written + _ + _ = _
      rw [hwritten₀]
      simp [forwarded, Nat.add_assoc]

/-! ## Whole runs -/

/-- The handles that the sink has granted, each still known to the binding that asked for it. -/
def handles (s : AdapterSet JsonLinesSink) : List Handle :=
  all.filterMap fun f => (s.bindings.get f).handle?

/-- However calls follow each other and whenever the file opens, the sink counts the adapters that
are started, has its file open for as long as there are any, and grants no handle twice. A start
whose open fails changes nothing but its adapter, which is never started again. A file that takes
everything ends up with the lines of the records that were forwarded. -/
theorem shared_sink (config : Config) (stack : List StackFrame) (path : String)
    (file : OutputFile) (calls : List (Option IoError × Call)) :
    let start := ofConfig config stack (JsonLinesSink.ofFile path file)
    let s := start.run calls
    (s.sink.registrations = all.countP fun f => s.state f = .started) ∧
    (s.sink.isOpen = true ↔ 0 < s.sink.registrations) ∧
    (s.handles.Nodup ∧ s.sink.nextHandle = s.handles.length + 1 ∧
      ∀ h ∈ s.handles, 0 < h.id ∧ h.id < s.sink.nextHandle) ∧
    (∀ f cause c, c.starts f = true → s.state f = .uninitialized → s.sink.isOpen = false →
      let failed := (s.refusing (some cause)).perform c
      failed.sink.registrations = s.sink.registrations ∧
      failed.sink.nextHandle = s.sink.nextHandle ∧
      failed.sink.file = { s.sink.file with refusal := some cause } ∧
      failed.state f = .failed ∧
      ∀ more, (failed.run more).state f ≠ .started) ∧
    (file.Takes →
      s.sink.finalFile.bytes.toList = file.bytes.toList ++ lines (start.forwarded calls) ∧
      s.sink.written = (start.forwarded calls).length) := by
  intro start s
  have hstart : start.Coupled := coupled_ofConfig config stack path file
  have hs : s.Coupled := hstart.run calls
  refine ⟨hs.registrations, hs.opened, ⟨?_, ?_, ?_⟩, ?_, fun htakes => ?_⟩
  · refine List.Nodup.filterMap (fun f g h hf hg => ?_) (by decide)
    exact hs.distinct f g h hf hg
  · rw [handles, List.length_filterMap_eq_countP]
    exact hs.issued
  · intro h hh
    obtain ⟨f, -, hf⟩ := List.mem_filterMap.mp hh
    exact hs.below f h hf
  · intro f cause c hc hu hopen failed
    obtain ⟨hopen', hreg, hnext, -, hfile, -⟩ :=
      JsonLinesSink.refusing_frame (some cause) s.sink
    have hr : (s.refusing (some cause)).sink.file.refusal = some cause := by
      show (s.sink.refusing (some cause)).file.refusal = _
      rw [hfile]
    have hclosed : (s.refusing (some cause)).sink.isOpen = false := hopen'.trans hopen
    have hu' : (s.refusing (some cause)).state f = .uninitialized := hu
    have hfailed : failed = _ :=
      (perform_of_refusal hc hu' hclosed hr).trans (start_of_refusal hu' hclosed hr)
    have hrefused : (failed.bindings.get f).registration = .refused := by
      rw [hfailed, PerFramework.get_set_self]
    refine ⟨by rw [hfailed]; exact hreg, by rw [hfailed]; exact hnext,
      by rw [hfailed]; exact hfile, ?_, ?_⟩
    · rw [hfailed, state_set_self rfl]
      exact Binding.state_refuse hu
    · exact ((hs.refusing _).perform c).run_of_refused hrefused
  · obtain ⟨hsound, hgiven, hwritten⟩ := hstart.given_run (show start.sink.Sound from htakes) calls
    refine ⟨(JsonLinesSink.bytes_finalFile hsound).trans hgiven, ?_⟩
    rw [hwritten]
    exact Nat.zero_add _

end AdapterSet

end LogOrigin
