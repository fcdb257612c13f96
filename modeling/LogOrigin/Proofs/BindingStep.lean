import LogOrigin.Binding.Threads

/-!
# Bindings under concurrent calls: one step

What a step can be is said once (`Advances`), and from that once what it can do to the registration
(`Change`). Every position of a thread comes with what is true of the shared state while the thread
stands there (`Position.Sound`). A step keeps that true of the thread itself and of all others,
because at most one thread is registering and at most one is shutting the registration down.
-/

namespace LogOrigin.Binding

variable {ι σ : Type}

/-! ## What a step is -/

/-- Every step of a thread: where it stands and what it finds, and what it makes of that. -/
inductive Advances [Sink σ] (t : ι) (number : Nat) (next? : Option Call) (s : Shared ι σ) :
    Position → Shared ι σ → Position → Prop where
  | begin (c : Call) (hc : next? = some c) : Advances t number next? s .idle s c.entry
  | checkStopped (p : Purpose) (hst : s.binding.stopped = true) :
      Advances t number next? s (.check p) s p.withoutHandle.position
  | check (p : Purpose) (hn : s.binding.stopped = false) :
      Advances t number next? s (.check p) s (.await p)
  | findGranted (p : Purpose) (h : Handle) (hr : s.binding.registration = .granted h) :
      Advances t number next? s (.await p) s (.recheck p (some h))
  | findRefused (p : Purpose) (hr : s.binding.registration = .refused) :
      Advances t number next? s (.await p) s (.recheck p none)
  | ask (p : Purpose) (hr : s.binding.registration = .pending) (hn : s.registering = false)
      (hstops : (Sink.start s.binding.logSystem s.sink).stopsCaller = false) :
      Advances t number next? s (.await p)
        ({ s with
          registering := true
          sink := (Sink.start s.binding.logSystem s.sink).sink }.note .start)
        (.register p (Sink.start s.binding.logSystem s.sink).result)
  | askStopped (p : Purpose) (hr : s.binding.registration = .pending) (hn : s.registering = false)
      (hstops : (Sink.start s.binding.logSystem s.sink).stopsCaller = true) :
      Advances t number next? s (.await p)
        ({ s with
          registering := true
          sink := (Sink.start s.binding.logSystem s.sink).sink }.note .start)
        (.halt (.sink p (Sink.start s.binding.logSystem s.sink).result))
  | answer (p : Purpose) (a : Except SinkError Handle) :
      Advances t number next? s (.register p a) (s.note (.ofAnswer a)) (.publish p a)
  | publish (p : Purpose) (a : Except SinkError Handle) :
      Advances t number next? s (.publish p a)
        { s with
          binding := { s.binding with registration := .ofAnswer a }
          registering := false }
        (.recheck p a.toOption)
  | recheckStopped (p : Purpose) (handle? : Option Handle) (hst : s.binding.stopped = true) :
      Advances t number next? s (.recheck p handle?) s (.release p.withoutHandle)
  | recheckStart (handle? : Option Handle) (hn : s.binding.stopped = false) :
      Advances t number next? s (.recheck .start handle?) s .checkState
  | recheckWrite (r : LogRecord) (h : Handle) (hn : s.binding.stopped = false) :
      Advances t number next? s (.recheck (.write r) (some h)) s (.forward h r)
  | recheckRefused (r : LogRecord) (hn : s.binding.stopped = false) :
      Advances t number next? s (.recheck (.write r) none) s .idle
  | forward (h : Handle) (r : LogRecord) :
      Advances t number next? s (.forward h r)
        ({ s with sink := Sink.write h r s.sink }.note (.write t number h r)) .idle
  | haltAgain (k : Return) (hst : s.binding.stopped = true) :
      Advances t number next? s (.halt k) s k.position
  | halt (k : Return) (hn : s.binding.stopped = false) :
      Advances t number next? s (.halt k)
        { s with binding := { s.binding with stopped := true } } (.release k)
  | release (k : Return) (h : Handle) (hr : s.binding.registration = .granted h) :
      Advances t number next? s (.release k) s (.claim k h)
  | releaseNothing (k : Return) (hr : ∀ h, s.binding.registration ≠ .granted h) :
      Advances t number next? s (.release k) s k.position
  | claimAgain (k : Return) (h : Handle) (hrel : s.binding.released = true) :
      Advances t number next? s (.claim k h) s k.position
  | claim (k : Return) (h : Handle) (hn : s.binding.released = false) :
      Advances t number next? s (.claim k h)
        { s with binding := { s.binding with released := true } } (.shutdown k h)
  | shutdown (k : Return) (h : Handle) :
      Advances t number next? s (.shutdown k h)
        ({ s with sink := Sink.shutdown h s.sink }.note (.shutdown h)) k.position
  | reportStopped (hst : s.binding.stopped = true) :
      Advances t number next? s .checkState (s.note (.reported t number .stopped)) .idle
  | checkState (hn : s.binding.stopped = false) :
      Advances t number next? s .checkState s .readState
  | report :
      Advances t number next? s .readState
        (s.note (.reported t number s.binding.registration.state)) .idle

theorem advances_of_advance [Sink σ] {t : ι} {number : Nat} {next? : Option Call}
    {s s' : Shared ι σ} {pos pos' : Position}
    (h : advance t number next? s pos = some (s', pos')) :
    Advances t number next? s pos s' pos' := by
  cases pos with
  | idle =>
    obtain ⟨c, hc, heq⟩ := Option.map_eq_some_iff.mp h
    cases heq
    exact .begin c hc
  | check p =>
    cases hst : s.binding.stopped <;> simp only [advance, hst] at h <;> cases h
    · exact .check p hst
    · exact .checkStopped p hst
  | await p =>
    simp only [advance] at h
    split at h
    · rename_i g hr; cases h; exact .findGranted p g hr
    · rename_i hr; cases h; exact .findRefused p hr
    · rename_i hr
      split at h
      · cases h
      · rename_i hn
        rw [Bool.not_eq_true] at hn
        cases hstops : (Sink.start s.binding.logSystem s.sink).stopsCaller <;>
          simp only [hstops] at h <;> cases h
        · exact .ask p hr hn hstops
        · exact .askStopped p hr hn hstops
  | register p a => cases h; exact .answer p a
  | publish p a => cases h; exact .publish p a
  | recheck p handle? =>
    cases hst : s.binding.stopped with
    | true =>
      simp only [advance, hst] at h
      cases h
      exact .recheckStopped p handle? hst
    | false =>
      simp only [advance, hst] at h
      cases p with
      | start => cases h; exact .recheckStart handle? hst
      | write r =>
        cases handle? with
        | none => cases h; exact .recheckRefused r hst
        | some g => cases h; exact .recheckWrite r g hst
  | forward g r => cases h; exact .forward g r
  | halt k =>
    cases hst : s.binding.stopped <;> simp only [advance, hst] at h <;> cases h
    · exact .halt k hst
    · exact .haltAgain k hst
  | release k =>
    simp only [advance] at h
    split at h
    · rename_i g hr; cases h; exact .release k g hr
    · rename_i hr; cases h; exact .releaseNothing k hr
  | claim k g =>
    cases hrel : s.binding.released <;> simp only [advance, hrel] at h <;> cases h
    · exact .claim k g hrel
    · exact .claimAgain k g hrel
  | shutdown k g => cases h; exact .shutdown k g
  | checkState =>
    cases hst : s.binding.stopped <;> simp only [advance, hst] at h <;> cases h
    · exact .checkState hst
    · exact .reportStopped hst
  | readState => cases h; exact .report

/-! ## The events of the registration -/

/-- An event of the registration: not a record and not a report. -/
def Event.isLifecycle : Event ι → Bool
  | .write .. | .reported .. => false
  | _ => true

/-- The events of the registration. -/
def lifecycle (log : List (Event ι)) : List (Event ι) := log.filter Event.isLifecycle

/-- The thread goes back to the sink that it asked for a registration. -/
def Return.isSink : Return → Bool
  | sink .. => true
  | _ => false

namespace Position

/-- The thread is the one that registers. -/
def isRegistering : Position → Bool
  | register .. | publish .. => true
  | halt k | release k | claim k _ | shutdown k _ => k.isSink
  | _ => false

/-- The thread is the one that shuts the registration down. -/
def isShuttingDown : Position → Bool
  | shutdown .. => true
  | _ => false

/-- If the binding is stopped, the thread will see to it that the registration is given back. -/
def leadsToRelease : Position → Bool
  | recheck .. | release _ | claim .. => true
  | _ => false

end Position

@[simp] theorem Return.isRegistering_position (k : Return) :
    k.position.isRegistering = k.isSink := by
  cases k <;> rfl

@[simp] theorem Return.isShuttingDown_position (k : Return) :
    k.position.isShuttingDown = false := by
  cases k <;> rfl

@[simp] theorem Purpose.isSink_withoutHandle (p : Purpose) : p.withoutHandle.isSink = false := by
  cases p <;> rfl

@[simp] theorem Call.isRegistering_entry (c : Call) : c.entry.isRegistering = false := by
  cases c <;> rfl

@[simp] theorem Call.isShuttingDown_entry (c : Call) : c.entry.isShuttingDown = false := by
  cases c <;> rfl

/-- A thread is registering, and so far this could be seen of the registration. -/
def Shared.Registering (s : Shared ι σ) (events : List (Event ι)) : Prop :=
  s.registering = true ∧ s.binding.registration = .pending ∧ lifecycle s.log = events

/-- What holds while a thread will go on here. -/
def Return.Sound (s : Shared ι σ) : Return → Prop
  | sink .. => s.Registering [.start]
  | _ => True

/-- What holds while a thread stands here. -/
def Position.Sound (s : Shared ι σ) : Position → Prop
  | register .. => s.Registering [.start]
  | publish _ answer => s.Registering [.start, .ofAnswer answer]
  | recheck _ (some h) => s.binding.registration = .granted h
  | recheck _ none => s.binding.registration = .refused
  | forward h _ => s.binding.registration = .granted h
  | halt k => k.Sound s
  | release k => s.binding.stopped = true ∧ k.Sound s
  | claim k h => s.binding.stopped = true ∧ s.binding.registration = .granted h ∧ k.Sound s
  | shutdown k h => s.binding.stopped = true ∧ s.binding.registration = .granted h ∧
      s.binding.released = true ∧ lifecycle s.log = [.start, .granted h] ∧ k.Sound s
  | _ => True

/-- How the registration and its events go together. -/
structure Shared.Consistent (s : Shared ι σ) : Prop where
  registering : s.registering = true → s.binding.registration = .pending
  released : s.binding.released = true →
    s.binding.stopped = true ∧ ∃ h, s.binding.registration = .granted h
  unasked : s.registering = false → s.binding.registration = .pending → lifecycle s.log = []
  refused : s.binding.registration = .refused → ∃ e, lifecycle s.log = [.start, .refused e]
  kept : ∀ h, s.binding.registration = .granted h → s.binding.released = false →
    lifecycle s.log = [.start, .granted h]
  returned : ∀ h, s.binding.registration = .granted h → s.binding.released = true →
    lifecycle s.log = [.start, .granted h] ∨
      lifecycle s.log = [.start, .granted h, .shutdown h]

@[simp] theorem lifecycle_note (s : Shared ι σ) (e : Event ι) :
    lifecycle (s.note e).log = lifecycle s.log ++ if e.isLifecycle then [e] else [] := by
  simp only [lifecycle, Shared.note, List.filter_append, List.filter_cons, List.filter_nil]

/-- A move that begins and ends neither registering nor shutting down, and that loses no release
that is due. -/
structure Quiet (s : Shared ι σ) (pos pos' : Position) : Prop where
  registering : pos'.isRegistering = pos.isRegistering
  before : pos.isShuttingDown = false
  after : pos'.isShuttingDown = false
  release : s.binding.stopped = true → s.binding.released = false →
    (∃ h, s.binding.registration = .granted h) → pos.leadsToRelease = true →
      pos'.leadsToRelease = true

/-- Where no release is due, none is lost. -/
theorem Quiet.of_leadsToRelease {s : Shared ι σ} {pos pos' : Position}
    (hreg : pos'.isRegistering = pos.isRegistering) (hbefore : pos.isShuttingDown = false)
    (hafter : pos'.isShuttingDown = false) (hrel : pos.leadsToRelease = false) :
    Quiet s pos pos' where
  registering := hreg
  before := hbefore
  after := hafter
  release _ _ _ h := absurd (hrel.symm.trans h) Bool.false_ne_true

/-- What a step can do to the registration and its events, and where it leads. -/
inductive Change (s s' : Shared ι σ) (pos pos' : Position) : Prop where
  | none (hb : s'.binding = s.binding) (hr : s'.registering = s.registering)
      (hl : lifecycle s'.log = lifecycle s.log) (hq : Quiet s pos pos')
  | asked (hp : s.binding.registration = .pending) (hn : s.registering = false)
      (hb : s'.binding = s.binding) (hr : s'.registering = true)
      (hl : lifecycle s'.log = lifecycle s.log ++ [.start])
      (hreg : pos'.isRegistering = true) (hshut : pos'.isShuttingDown = false)
  | answered (p : Purpose) (answer : Except SinkError Handle) (hpos : pos = .register p answer)
      (hb : s'.binding = s.binding) (hr : s'.registering = s.registering)
      (hl : lifecycle s'.log = lifecycle s.log ++ [.ofAnswer answer])
      (hpos' : pos' = .publish p answer)
  | published (p : Purpose) (answer : Except SinkError Handle) (hpos : pos = .publish p answer)
      (hb : s'.binding = { s.binding with registration := .ofAnswer answer })
      (hr : s'.registering = false) (hl : lifecycle s'.log = lifecycle s.log)
      (hpos' : pos' = .recheck p answer.toOption)
  | halted (k : Return) (hpos : pos = .halt k)
      (hb : s'.binding = { s.binding with stopped := true })
      (hr : s'.registering = s.registering) (hl : lifecycle s'.log = lifecycle s.log)
      (hpos' : pos' = .release k)
  | claimed (k : Return) (h : Handle) (hpos : pos = .claim k h) (hn : s.binding.released = false)
      (hb : s'.binding = { s.binding with released := true })
      (hr : s'.registering = s.registering) (hl : lifecycle s'.log = lifecycle s.log)
      (hpos' : pos' = .shutdown k h)
  | shutDown (k : Return) (h : Handle) (hpos : pos = .shutdown k h)
      (hb : s'.binding = s.binding) (hr : s'.registering = s.registering)
      (hl : lifecycle s'.log = lifecycle s.log ++ [.shutdown h]) (hpos' : pos' = k.position)

section Step

variable [Sink σ] {t : ι} {number : Nat} {next? : Option Call} {s s' : Shared ι σ}
  {pos pos' q : Position}

/-- Every step is one of these changes. -/
theorem change_of_advances (h : Advances t number next? s pos s' pos') : Change s s' pos pos' := by
  cases h with
  | begin c =>
    exact .none rfl rfl rfl
      (.of_leadsToRelease c.isRegistering_entry rfl c.isShuttingDown_entry rfl)
  | checkStopped p =>
    have hreg : p.withoutHandle.position.isRegistering = false := by
      rw [Return.isRegistering_position, Purpose.isSink_withoutHandle]
    exact .none rfl rfl rfl (.of_leadsToRelease hreg rfl (Return.isShuttingDown_position _) rfl)
  | check p => exact .none rfl rfl rfl (.of_leadsToRelease rfl rfl rfl rfl)
  | findGranted p h => exact .none rfl rfl rfl ⟨rfl, rfl, rfl, fun _ _ _ _ => rfl⟩
  | findRefused p => exact .none rfl rfl rfl ⟨rfl, rfl, rfl, fun _ _ _ _ => rfl⟩
  | ask p hr hn => exact .asked hr hn rfl rfl (lifecycle_note ..) rfl rfl
  | askStopped p hr hn => exact .asked hr hn rfl rfl (lifecycle_note ..) rfl rfl
  | answer p a =>
    refine .answered p a rfl rfl rfl ?_ rfl
    cases a <;> exact lifecycle_note ..
  | publish p a => exact .published p a rfl rfl rfl rfl rfl
  | recheckStopped p handle? =>
    exact .none rfl rfl rfl ⟨p.isSink_withoutHandle, rfl, rfl, fun _ _ _ _ => rfl⟩
  | recheckStart handle? hn | recheckWrite r h hn | recheckRefused r hn =>
    refine .none rfl rfl rfl ⟨rfl, rfl, rfl, fun hst => ?_⟩
    rw [hn] at hst
    cases hst
  | forward h r =>
    exact .none rfl rfl (by simp [Event.isLifecycle]) (.of_leadsToRelease rfl rfl rfl rfl)
  | haltAgain k =>
    exact .none rfl rfl rfl
      (.of_leadsToRelease k.isRegistering_position rfl k.isShuttingDown_position rfl)
  | halt k => exact .halted k rfl rfl rfl rfl rfl
  | release k h => exact .none rfl rfl rfl ⟨rfl, rfl, rfl, fun _ _ _ _ => rfl⟩
  | releaseNothing k hr =>
    exact .none rfl rfl rfl ⟨k.isRegistering_position, rfl, k.isShuttingDown_position,
      fun _ _ hgranted _ => hgranted.elim fun g h => absurd h (hr g)⟩
  | claimAgain k h hrel =>
    exact .none rfl rfl rfl ⟨k.isRegistering_position, rfl, k.isShuttingDown_position,
      fun _ hn => by rw [hrel] at hn; cases hn⟩
  | claim k h hn => exact .claimed k h rfl hn rfl rfl rfl rfl
  | shutdown k h => exact .shutDown k h rfl rfl rfl (lifecycle_note ..) rfl
  | reportStopped | report =>
    exact .none rfl rfl (by simp [Event.isLifecycle]) (.of_leadsToRelease rfl rfl rfl rfl)
  | checkState => exact .none rfl rfl rfl (.of_leadsToRelease rfl rfl rfl rfl)

end Step

/-! ## A step by one thread and what holds for the others -/

variable {s s' : Shared ι σ} {pos pos' q : Position}

/-- A registration that is no longer pending stays as it is. -/
theorem registration_of_change (hc : Change s s' pos pos') (hpos : pos.Sound s)
    (h : s.binding.registration ≠ .pending) :
    s'.binding.registration = s.binding.registration := by
  cases hc with
  | none hb => rw [hb]
  | asked _ _ hb => rw [hb]
  | answered _ _ _ hb => rw [hb]
  | published p answer hp => subst hp; exact absurd hpos.2.1 h
  | halted _ _ hb => rw [hb]
  | claimed _ _ _ _ hb => rw [hb]
  | shutDown _ _ _ hb => rw [hb]

/-- Only a thread that is about to stop the binding stops it. -/
theorem stopped_cases_of_change (hc : Change s s' pos pos') :
    s'.binding.stopped = s.binding.stopped ∨
      (∃ k, pos = .halt k) ∧ s'.binding.stopped = true := by
  cases hc with
  | none hb => exact .inl (by rw [hb])
  | asked _ _ hb => exact .inl (by rw [hb])
  | answered _ _ _ hb => exact .inl (by rw [hb])
  | published _ _ _ hb => exact .inl (by rw [hb])
  | halted k hp hb => exact .inr ⟨⟨k, hp⟩, by rw [hb]⟩
  | claimed _ _ _ _ hb => exact .inl (by rw [hb])
  | shutDown _ _ _ hb => exact .inl (by rw [hb])

/-- A binding that is stopped stays so. -/
theorem stopped_of_change (hc : Change s s' pos pos') (h : s.binding.stopped = true) :
    s'.binding.stopped = true := by
  rcases stopped_cases_of_change hc with hsame | ⟨-, hst⟩
  · rw [hsame, h]
  · exact hst

/-- What was given back stays so. -/
theorem released_of_change (hc : Change s s' pos pos') (h : s.binding.released = true) :
    s'.binding.released = true := by
  cases hc with
  | none hb => rw [hb, h]
  | asked _ _ hb => rw [hb, h]
  | answered _ _ _ hb => rw [hb, h]
  | published _ _ _ hb => rw [hb]; exact h
  | halted _ _ hb => rw [hb]; exact h
  | claimed _ _ _ hn => rw [hn] at h; cases h
  | shutDown _ _ _ hb => rw [hb, h]

theorem granted_of_change (hc : Change s s' pos pos') (hpos : pos.Sound s) {h : Handle}
    (hg : s.binding.registration = .granted h) : s'.binding.registration = .granted h := by
  rw [registration_of_change hc hpos (by rw [hg]; simp), hg]

/-- While a thread is registering, the others change nothing about it. -/
theorem registering_of_change (hc : Change s s' pos pos') (hpos : pos.Sound s)
    (hreg : pos.isRegistering = false) {events : List (Event ι)} (h : s.Registering events) :
    s'.Registering events := by
  obtain ⟨h1, h2, h3⟩ := h
  cases hc with
  | none hb hr hl => exact ⟨by rw [hr, h1], by rw [hb, h2], by rw [hl, h3]⟩
  | asked hp hn => rw [h1] at hn; cases hn
  | answered p a hp => subst hp; cases hreg
  | published p a hp => subst hp; cases hreg
  | halted k hp hb hr hl => exact ⟨by rw [hr, h1], by rw [hb]; exact h2, by rw [hl, h3]⟩
  | claimed k h hp hn hb hr hl => exact ⟨by rw [hr, h1], by rw [hb]; exact h2, by rw [hl, h3]⟩
  | shutDown k h hp => subst hp; rw [hpos.2.1] at h2; cases h2

theorem Return.sound_other (hc : Change s s' pos pos') (hpos : pos.Sound s) {k : Return}
    (hk : k.Sound s) (hreg : k.isSink = true → pos.isRegistering = false) : k.Sound s' := by
  cases k with
  | done => trivial
  | report => trivial
  | sink p answer => exact registering_of_change hc hpos (hreg rfl) hk

/-- A step by one thread leaves true what holds for another, if they are not both registering and
not both shutting the registration down. -/
theorem Position.sound_other (hc : Change s s' pos pos') (hpos : pos.Sound s) (hq : q.Sound s)
    (hreg : q.isRegistering = true → pos.isRegistering = false)
    (hshut : q.isShuttingDown = true → pos.isShuttingDown = false) : q.Sound s' := by
  cases q with
  | idle => trivial
  | check p => trivial
  | await p => trivial
  | register p answer => exact registering_of_change hc hpos (hreg rfl) hq
  | publish p answer => exact registering_of_change hc hpos (hreg rfl) hq
  | recheck p handle? =>
    cases handle? with
    | none =>
      have hr : s.binding.registration = .refused := hq
      show s'.binding.registration = .refused
      rw [registration_of_change hc hpos (by rw [hr]; simp), hr]
    | some h => exact granted_of_change hc hpos hq
  | forward h r => exact granted_of_change hc hpos hq
  | halt k => exact Return.sound_other hc hpos hq hreg
  | release k => exact ⟨stopped_of_change hc hq.1, Return.sound_other hc hpos hq.2 hreg⟩
  | claim k h =>
    exact ⟨stopped_of_change hc hq.1, granted_of_change hc hpos hq.2.1,
      Return.sound_other hc hpos hq.2.2 hreg⟩
  | shutdown k h =>
    obtain ⟨h1, h2, h3, h4, h5⟩ := hq
    refine ⟨stopped_of_change hc h1, granted_of_change hc hpos h2, released_of_change hc h3, ?_,
      Return.sound_other hc hpos h5 hreg⟩
    cases hc with
    | none hb hr hl => rw [hl, h4]
    | asked hp => rw [h2] at hp; cases hp
    | answered p a hp => subst hp; rw [hpos.2.1] at h2; cases h2
    | published p a hp => subst hp; rw [hpos.2.1] at h2; cases h2
    | halted k hp hb hr hl => rw [hl, h4]
    | claimed k h hp hn => rw [h3] at hn; cases hn
    | shutDown k h hp => subst hp; cases hshut rfl
  | checkState => trivial
  | readState => trivial

/-- A step keeps the registration and its events together. -/
theorem Shared.Consistent.change (hs : s.Consistent) (hc : Change s s' pos pos') (hpos : pos.Sound s) :
    s'.Consistent := by
  cases hc with
  | none hb hr hl =>
    exact
      { registering := by rw [hr, hb]; exact hs.registering
        released := by rw [hb]; exact hs.released
        unasked := by rw [hr, hb, hl]; exact hs.unasked
        refused := by rw [hb, hl]; exact hs.refused
        kept := by rw [hb, hl]; exact hs.kept
        returned := by rw [hb, hl]; exact hs.returned }
  | asked hp hn hb hr hl =>
    refine ⟨fun _ => by rw [hb, hp], by rw [hb]; exact hs.released, fun h => ?_, fun h => ?_,
      fun g h => ?_, fun g h => ?_⟩
    · rw [hr] at h; cases h
    all_goals rw [hb, hp] at h; cases h
  | answered p answer hpos' hb hr hl =>
    subst hpos'
    obtain ⟨h1, h2, -⟩ := hpos
    refine ⟨fun _ => by rw [hb, h2], by rw [hb]; exact hs.released, fun h => ?_, fun h => ?_,
      fun g h => ?_, fun g h => ?_⟩
    · rw [hr, h1] at h; cases h
    all_goals rw [hb, h2] at h; cases h
  | published p answer hpos' hb hr hl =>
    subst hpos'
    obtain ⟨-, h2, h3⟩ := hpos
    have hrel : s'.binding.released = true → False := by
      intro h
      rw [hb] at h
      obtain ⟨-, g, hg⟩ := hs.released h
      rw [h2] at hg
      cases hg
    refine ⟨fun h => ?_, fun h => (hrel h).elim, fun _ h => ?_, fun h => ?_, fun g h _ => ?_,
      fun g _ h => (hrel h).elim⟩
    · rw [hr] at h; cases h
    · rw [hb] at h; cases answer <;> cases h
    · rw [hb] at h
      cases answer with
      | ok g => cases h
      | error e => exact ⟨e, by rw [hl, h3]; rfl⟩
    · rw [hb] at h
      cases answer with
      | ok g' => cases h; rw [hl, h3]; rfl
      | error e => cases h
  | halted k _ hb hr hl =>
    exact
      { registering := by rw [hr, hb]; exact hs.registering
        released := by rw [hb]; exact fun h => ⟨rfl, (hs.released h).2⟩
        unasked := by rw [hr, hb, hl]; exact hs.unasked
        refused := by rw [hb, hl]; exact hs.refused
        kept := by rw [hb, hl]; exact hs.kept
        returned := by rw [hb, hl]; exact hs.returned }
  | claimed k h hpos' hn hb hr hl =>
    subst hpos'
    obtain ⟨h1, h2, -⟩ := hpos
    refine ⟨by rw [hr, hb]; exact hs.registering, fun _ => ?_, by rw [hr, hb, hl]; exact hs.unasked,
      by rw [hb, hl]; exact hs.refused, fun g _ hn' => ?_, fun g hg _ => .inl ?_⟩
    · rw [hb]; exact ⟨h1, h, h2⟩
    · rw [hb] at hn'; cases hn'
    · rw [hb] at hg; rw [hl]; exact hs.kept g hg hn
  | shutDown k h hpos' hb hr hl =>
    subst hpos'
    obtain ⟨h1, h2, h3, h4, -⟩ := hpos
    refine ⟨by rw [hr, hb]; exact hs.registering, by rw [hb]; exact hs.released, fun _ hp => ?_,
      fun hp => ?_, fun g _ hn => ?_, fun g hg _ => .inr ?_⟩
    · rw [hb, h2] at hp; cases hp
    · rw [hb, h2] at hp; cases hp
    · rw [hb, h3] at hn; cases hn
    · rw [hb, h2] at hg
      cases hg
      rw [hl, h4]
      rfl

/-- A thread that goes on finds what it needs there. -/
theorem Return.sound_position {k : Return} (hk : k.Sound s) : k.position.Sound s := by
  cases k with
  | done => trivial
  | report => trivial
  | sink p answer => exact hk

theorem Purpose.sound_withoutHandle (p : Purpose) (s : Shared ι σ) : p.withoutHandle.Sound s := by
  cases p <;> trivial

section Step

variable [Sink σ] {t : ι} {number : Nat} {next? : Option Call}

/-- After its step a thread stands where what it needs holds. -/
theorem Position.sound_advances (h : Advances t number next? s pos s' pos') (hs : s.Consistent)
    (hpos : pos.Sound s) : pos'.Sound s' := by
  cases h with
  | begin c => cases c <;> trivial
  | checkStopped p => exact Return.sound_position (p.sound_withoutHandle s)
  | check p => trivial
  | findGranted p h hr => exact hr
  | findRefused p hr => exact hr
  | ask p hr hn => exact ⟨rfl, hr, by rw [lifecycle_note, hs.unasked hn hr]; rfl⟩
  | askStopped p hr hn => exact ⟨rfl, hr, by rw [lifecycle_note, hs.unasked hn hr]; rfl⟩
  | answer p a =>
    obtain ⟨h1, h2, h3⟩ := hpos
    refine ⟨h1, h2, ?_⟩
    rw [lifecycle_note, h3]
    cases a <;> rfl
  | publish p a => cases a <;> rfl
  | recheckStopped p handle? hst => exact ⟨hst, p.sound_withoutHandle s⟩
  | recheckStart handle? => trivial
  | recheckWrite r h => exact hpos
  | recheckRefused r => trivial
  | forward h r => trivial
  | haltAgain k => exact Return.sound_position hpos
  | halt k => exact ⟨rfl, hpos⟩
  | release k h hr => exact ⟨hpos.1, hr, hpos.2⟩
  | releaseNothing k => exact Return.sound_position hpos.2
  | claimAgain k h => exact Return.sound_position hpos.2.2
  | claim k h hn =>
    obtain ⟨h1, h2, h3⟩ := hpos
    exact ⟨h1, h2, rfl, hs.kept h h2 hn, h3⟩
  | shutdown k h =>
    cases k with
    | done => trivial
    | report => trivial
    | sink p a =>
      obtain ⟨-, hg, -, -, -, hp, -⟩ := hpos
      rw [hg] at hp
      cases hp
  | reportStopped => trivial
  | checkState => trivial
  | report => trivial

end Step

/-! ## Who registers, and who shuts down -/

theorem Return.registering_of_isSink {k : Return} (hk : k.Sound s) (hsink : k.isSink = true) :
    s.Registering [.start] := by
  cases k with
  | sink p answer => exact hk
  | done => cases hsink
  | report => cases hsink

/-- A thread that registers has asked the sink, and may have its answer. -/
theorem Position.registering_of_isRegistering (hq : q.Sound s) (hreg : q.isRegistering = true) :
    s.Registering [.start] ∨ ∃ answer, s.Registering [.start, .ofAnswer answer] := by
  cases q with
  | register p answer => exact .inl hq
  | publish p answer => exact .inr ⟨answer, hq⟩
  | halt k => exact .inl (Return.registering_of_isSink hq hreg)
  | release k => exact .inl (Return.registering_of_isSink hq.2 hreg)
  | claim k h => exact .inl (Return.registering_of_isSink hq.2.2 hreg)
  | shutdown k h => exact .inl (Return.registering_of_isSink hq.2.2.2.2 hreg)
  | _ => cases hreg

theorem Position.released_of_isShuttingDown (hq : q.Sound s) (hshut : q.isShuttingDown = true) :
    s.binding.released = true := by
  cases q with
  | shutdown k h => exact hq.2.2.1
  | _ => cases hshut

/-- A thread that registers after its step did so before, or nobody did. -/
theorem isRegistering_of_change (hc : Change s s' pos pos') (h : pos'.isRegistering = true) :
    pos.isRegistering = true ∨ s.registering = false := by
  cases hc with
  | none hb hr hl hq => exact .inl (hq.registering ▸ h)
  | asked _ hn => exact .inr hn
  | answered p answer hp => rw [hp]; exact .inl rfl
  | published p answer hp hb hr hl hp' => rw [hp'] at h; cases h
  | halted k hp hb hr hl hp' => rw [hp]; rw [hp'] at h; exact .inl h
  | claimed k g hp hn hb hr hl hp' => rw [hp]; rw [hp'] at h; exact .inl h
  | shutDown k g hp hb hr hl hp' =>
    rw [hp', Return.isRegistering_position] at h
    rw [hp]
    exact .inl h

/-- A thread comes to shut down only what has not been given back. -/
theorem unreleased_of_change (hc : Change s s' pos pos') (h : pos'.isShuttingDown = true) :
    s.binding.released = false := by
  cases hc with
  | none hb hr hl hq => rw [hq.after] at h; cases h
  | asked _ _ _ _ _ _ hp' => rw [hp'] at h; cases h
  | answered p answer hp hb hr hl hp' => rw [hp'] at h; cases h
  | published p answer hp hb hr hl hp' => rw [hp'] at h; cases h
  | halted k hp hb hr hl hp' => rw [hp'] at h; cases h
  | claimed k g hp hn => exact hn
  | shutDown k g hp hb hr hl hp' => rw [hp', k.isShuttingDown_position] at h; cases h

/-- If a thread is registering after a step, it is the one that stepped, or one that was registering
before and did not step. -/
theorem registering_after_change (hc : Change s s' pos pos') (h : s'.registering = true) :
    pos'.isRegistering = true ∨ s.registering = true ∧ pos.isRegistering = false := by
  have hsame : s'.registering = s.registering → pos'.isRegistering = pos.isRegistering →
      pos'.isRegistering = true ∨ s.registering = true ∧ pos.isRegistering = false := by
    intro hr hp
    rw [hp, ← hr, h]
    cases pos.isRegistering with
    | true => exact .inl rfl
    | false => exact .inr ⟨rfl, rfl⟩
  cases hc with
  | none hb hr hl hq => exact hsame hr hq.registering
  | asked _ _ _ _ _ hp' => exact .inl hp'
  | answered p answer hp hb hr hl hp' => rw [hp']; exact .inl rfl
  | published p answer hp hb hr => rw [hr] at h; cases h
  | halted k hp hb hr hl hp' => exact hsame hr (by rw [hp, hp']; rfl)
  | claimed k g hp hn hb hr hl hp' => exact hsame hr (by rw [hp, hp']; rfl)
  | shutDown k g hp hb hr hl hp' =>
    exact hsame hr (by rw [hp, hp', Return.isRegistering_position]; rfl)

/-- The registration is marked as given back and has not been shut down. -/
def Shared.ShuttingDown (s : Shared ι σ) : Prop :=
  ∃ h, s.binding.registration = .granted h ∧ s.binding.released = true ∧
    lifecycle s.log = [.start, .granted h]

/-- If a registration is to be shut down after a step, the thread that stepped will do so, or one
that was about to before and did not step. -/
theorem shuttingDown_after_change (hc : Change s s' pos pos') (hs : s.Consistent)
    (hpos : pos.Sound s) (h : s'.ShuttingDown) :
    pos'.isShuttingDown = true ∨ s.ShuttingDown ∧ pos.isShuttingDown = false := by
  obtain ⟨g, hg, hrel, hlog⟩ := h
  cases hc with
  | none hb hr hl hq =>
    rw [hb] at hg hrel
    rw [hl] at hlog
    exact .inr ⟨⟨g, hg, hrel, hlog⟩, hq.before⟩
  | asked hpend _ hb => rw [hb, hpend] at hg; cases hg
  | answered p answer hp hb => rw [hp] at hpos; rw [hb, hpos.2.1] at hg; cases hg
  | published p answer hp hb =>
    rw [hp] at hpos
    rw [hb] at hrel
    obtain ⟨-, g', hg'⟩ := hs.released hrel
    rw [hpos.2.1] at hg'
    cases hg'
  | halted k hp hb hr hl =>
    rw [hb] at hg hrel
    rw [hl] at hlog
    exact .inr ⟨⟨g, hg, hrel, hlog⟩, by rw [hp]; rfl⟩
  | claimed k g' hp hn hb hr hl hp' => rw [hp']; exact .inl rfl
  | shutDown k g' hp hb hr hl =>
    rw [hp] at hpos
    rw [hl, hpos.2.2.2.1] at hlog
    cases hlog

/-- The binding is stopped and its registration has not been given back. -/
def Shared.Owing (s : Shared ι σ) : Prop :=
  s.binding.stopped = true ∧ s.binding.released = false ∧
    ∃ h, s.binding.registration = .granted h

/-- If a registration is to be given back after a step, the thread that stepped will see to it, or
one that would have before and did not step. -/
theorem owing_after_change (hc : Change s s' pos pos') (hpos : pos.Sound s) (h : s'.Owing) :
    pos'.leadsToRelease = true ∨ s.Owing ∧ pos.leadsToRelease = false := by
  obtain ⟨hst, hrel, g, hg⟩ := h
  cases hc with
  | none hb hr hl hq =>
    rw [hb] at hst hrel hg
    cases hleads : pos.leadsToRelease with
    | true => exact .inl (hq.release hst hrel ⟨g, hg⟩ hleads)
    | false => exact .inr ⟨⟨hst, hrel, g, hg⟩, rfl⟩
  | asked hpend _ hb => rw [hb, hpend] at hg; cases hg
  | answered p answer hp hb => rw [hp] at hpos; rw [hb, hpos.2.1] at hg; cases hg
  | published p answer hp hb hr hl hp' => rw [hp']; exact .inl rfl
  | halted k hp hb hr hl hp' => rw [hp']; exact .inl rfl
  | claimed k g hp hn hb => rw [hb] at hrel; cases hrel
  | shutDown k g hp hb => rw [hp] at hpos; rw [hb, hpos.2.2.1] at hrel; cases hrel

end LogOrigin.Binding
