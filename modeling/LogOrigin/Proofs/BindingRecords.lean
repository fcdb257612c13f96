import LogOrigin.Proofs.BindingThreads

/-!
# Bindings under concurrent calls: records

A thread that stands somewhere serves the call that its program has there (`Position.Serves`). So a
call hands at most its own record to the sink, and hands it over unless the binding is stopped or
its registration refused.
-/

namespace LogOrigin.Binding

variable {ι σ : Type} {s s' : Shared ι σ} {pos pos' q : Position}

/-- What a thread goes on with belongs to the call. -/
def Return.Serves (c : Call) : Return → Prop
  | done => True
  | report => c = .start
  | sink p _ => c = p.call

/-- Where a thread stands belongs to the call. -/
def Position.Serves (c : Call) : Position → Prop
  | idle => True
  | check p | await p | register p _ | publish p _ | recheck p _ => c = p.call
  | forward _ r => c = .write r
  | halt k | release k | claim k _ | shutdown k _ => k.Serves c
  | checkState | readState => c = .start ∨ c = .state

theorem Call.serves_entry (c : Call) : c.entry.Serves c := by
  cases c with
  | start => rfl
  | write r => rfl
  | stop => trivial
  | state => exact .inr rfl

theorem Return.serves_position {c : Call} {k : Return} (hk : k.Serves c) : k.position.Serves c := by
  cases k with
  | done => trivial
  | report => exact .inl hk
  | sink p answer => exact hk

theorem Purpose.serves_withoutHandle {c : Call} {p : Purpose} (hp : c = p.call) :
    p.withoutHandle.Serves c := by
  cases p with
  | start => exact hp
  | write r => trivial

/-- What a thread that stands here is about to hand to the sink. -/
def Position.records : Position → List (Handle × LogRecord)
  | forward h r => [(h, r)]
  | _ => []

/-- The sink is handed a record. -/
def Event.isWrite : Event ι → Bool
  | .write .. => true
  | _ => false

section Forwards

variable [DecidableEq ι]

@[simp] theorem forwards_append (log log' : List (Event ι)) (t : ι) (k : Nat) :
    forwards (log ++ log') t k = forwards log t k ++ forwards log' t k :=
  List.filterMap_append ..

/-- Events of the registration and reports hand no record to the sink. -/
theorem forwards_note (s : Shared ι σ) {e : Event ι} (he : e.isWrite = false) (t : ι) (k : Nat) :
    forwards (s.note e).log t k = forwards s.log t k := by
  have hnone : forwards [e] t k = [] := by
    cases e with
    | write t n h r => cases he
    | _ => rfl
  show forwards (s.log ++ [e]) t k = forwards s.log t k
  rw [forwards_append, hnone, List.append_nil]

end Forwards

section Step

variable [Sink σ] {t : ι} {number : Nat} {next? : Option Call}

/-- A thread goes on with its call, or begins the next one. -/
theorem Position.serves_advances {c : Call} (h : Advances t number next? s pos s' pos')
    (hpos : if pos.isIdle then next? = some c else pos.Serves c) : pos'.Serves c := by
  cases h with
  | begin d hd =>
    cases hd.symm.trans hpos
    exact c.serves_entry
  | checkStopped p => exact Return.serves_position (Purpose.serves_withoutHandle hpos)
  | recheckStopped p handle? => exact Purpose.serves_withoutHandle hpos
  | recheckStart handle? => exact .inl hpos
  | haltAgain k | releaseNothing k | claimAgain k h | shutdown k h =>
    exact Return.serves_position hpos
  | recheckRefused r | forward h r | reportStopped | report => trivial
  | _ => exact hpos

/-- A step hands to the sink what its thread is about to forward, for the call of that thread. -/
theorem forwards_advances [DecidableEq ι] (h : Advances t number next? s pos s' pos') (u : ι)
    (k : Nat) :
    forwards s'.log u k =
      forwards s.log u k ++ if t = u ∧ number = k then pos.records else [] := by
  have hsame : pos.records = [] → forwards s'.log u k = forwards s.log u k →
      forwards s'.log u k =
        forwards s.log u k ++ if t = u ∧ number = k then pos.records else [] := by
    intro hnone heq
    rw [hnone, ite_self, List.append_nil, heq]
  cases h with
  | forward h r =>
    show forwards (s.log ++ [.write t number h r]) u k = _
    rw [forwards_append]
    congr 1
    by_cases hu : t = u ∧ number = k
    · simp [forwards, hu, Position.records]
    · simp [forwards, hu]
  | answer p a =>
    have hanswer : (Event.ofAnswer a : Event ι).isWrite = false := by cases a <;> rfl
    exact hsame rfl (forwards_note s hanswer u k)
  | ask p | askStopped p | shutdown k' h | reportStopped | report =>
    exact hsame rfl (forwards_note _ rfl u k)
  | begin c | checkStopped p | check p | findGranted p h | findRefused p | publish p a
  | recheckStopped p handle? | recheckStart handle? | recheckWrite r h | recheckRefused r
  | haltAgain k' | halt k' | release k' h | releaseNothing k' | claimAgain k' h | claim k' h
  | checkState => exact hsame rfl rfl

/-- A thread between two calls begins the next one. -/
theorem exists_next_of_advances (h : Advances t number next? s pos s' pos')
    (hidle : pos.isIdle = true) : ∃ c, next? = some c ∧ pos'.isIdle = false := by
  cases h with
  | begin c hc => exact ⟨c, hc, by cases c <;> rfl⟩
  | _ => cases hidle

/-- A thread that forwards a record ends its call with it. -/
theorem isIdle_of_records (h : Advances t number next? s pos s' pos') (hrec : pos.records ≠ []) :
    pos'.isIdle = true := by
  cases h with
  | forward h r => rfl
  | _ => exact absurd rfl hrec

/-- A call that writes a record ends with the record handed to the sink, unless the binding is
stopped or its registration was refused. -/
theorem end_of_write {r : LogRecord} (h : Advances t number next? s pos s' pos') (hpos : pos.Sound s)
    (hr : pos.Serves (.write r)) (hidle : pos.isIdle = false) (hidle' : pos'.isIdle = true) :
    s'.binding.stopped = true ∨ s'.binding.registration = .refused ∨ ∃ g, pos = .forward g r := by
  cases h with
  | begin c => cases hidle
  | checkStopped p hst => exact .inl hst
  | haltAgain k hst => exact .inl hst
  | recheckRefused r' => exact .inr (.inl hpos)
  | forward h r' =>
    cases hr
    exact .inr (.inr ⟨h, rfl⟩)
  | releaseNothing k | claimAgain k h | shutdown k h => exact .inl hpos.1
  | reportStopped | report => rcases hr with h | h <;> cases h
  | check p | findGranted p h | findRefused p | ask p | askStopped p | answer p a | publish p a
  | recheckStopped p handle? | recheckStart handle? | recheckWrite r' h | halt k | release k h
  | claim k h | checkState => cases hidle'

end Step

/-- What holds of the records of threads that run the given programs. -/
structure Threads.Served [DecidableEq ι] (programs : ι → List Call) (m : Threads ι σ) : Prop where
  serves : ∀ t, (m.position t).isIdle = false →
    ∃ c, (programs t)[m.finished t]? = some c ∧ (m.position t).Serves c
  /-- A call that is not finished has handed nothing to the sink. -/
  unfinished : ∀ t k, m.finished t ≤ k → forwards m.shared.log t k = []
  /-- A call hands at most its own record to the sink, and through the handle that was granted. -/
  forwarded : ∀ t k, forwards m.shared.log t k = [] ∨
    ∃ h r, forwards m.shared.log t k = [(h, r)] ∧ (programs t)[k]? = some (.write r) ∧
      m.shared.binding.registration = .granted h
  /-- No record is lost while the binding is neither stopped nor refused. -/
  complete : m.shared.binding.stopped = false → ∀ t k r, k < m.finished t →
    (programs t)[k]? = some (.write r) → m.shared.binding.registration = .refused ∨
      ∃ h, forwards m.shared.log t k = [(h, r)]

namespace Threads

variable [DecidableEq ι] [Sink σ] {programs : ι → List Call} {t : ι} {m m' : Threads ι σ}

omit [Sink σ] in
theorem served_initial (logSystem : String) (sink : σ) :
    (initial logSystem sink : Threads ι σ).Served programs where
  serves _ h := by cases h
  unfinished _ _ _ := rfl
  forwarded _ _ := .inl rfl
  complete _ _ _ _ h := absurd h (Nat.not_lt_zero _)

omit [Sink σ] in
/-- Between two calls or not, the number of finished calls goes up with the end of a call. -/
theorem finished_update {pos' : Position} {finished finished' : ι → Nat}
    (hf : finished' = if pos'.isIdle then Function.update finished t (finished t + 1) else finished) :
    finished' t = (if pos'.isIdle then finished t + 1 else finished t) ∧
      ∀ u, u ≠ t → finished' u = finished u := by
  subst hf
  cases pos'.isIdle with
  | true => exact ⟨Function.update_self .., fun u hu => Function.update_of_ne hu ..⟩
  | false => exact ⟨rfl, fun u _ => rfl⟩

/-- No step takes a finished call back. -/
theorem finished_le_of_step (h : m.step programs t = some m') (u : ι) :
    m.finished u ≤ m'.finished u := by
  obtain ⟨pos', -, -, hf⟩ := advances_of_step h
  obtain ⟨hself, hother⟩ := finished_update hf
  by_cases hu : u = t
  · subst hu
    rw [hself]
    split
    · exact Nat.le_succ _
    · exact Nat.le_refl _
  · exact Nat.le_of_eq (hother u hu).symm

/-- A step adds no record to a call other than the one that its thread is in. -/
theorem forwards_of_step (h : m.step programs t = some m') {u : ι} {k : Nat}
    (hne : ¬(t = u ∧ m.finished t = k)) :
    forwards m'.shared.log u k = forwards m.shared.log u k := by
  obtain ⟨pos', hadv, -, -⟩ := advances_of_step h
  rw [forwards_advances hadv, if_neg hne, List.append_nil]

/-- The call that a thread is in, or begins, with where its step leads. -/
theorem Served.serves_step (hv : m.Served programs) {pos' : Position} {s' : Shared ι σ}
    (hadv : Advances t (m.finished t) (programs t)[m.finished t]? m.shared (m.position t) s'
      pos') :
    ∃ c, (programs t)[m.finished t]? = some c ∧ pos'.Serves c := by
  cases hold : (m.position t).isIdle with
  | true =>
    obtain ⟨c, hnext, -⟩ := exists_next_of_advances hadv hold
    exact ⟨c, hnext, Position.serves_advances hadv (by rw [hold]; exact hnext)⟩
  | false =>
    obtain ⟨c, hnext, hserves⟩ := hv.serves t hold
    exact ⟨c, hnext, Position.serves_advances hadv (by rw [hold]; exact hserves)⟩

/-- The call that a thread is in hands to the sink what the thread is about to forward. -/
theorem Served.forwards_step (hv : m.Served programs) (h : m.step programs t = some m') :
    forwards m'.shared.log t (m.finished t) = (m.position t).records := by
  obtain ⟨pos', hadv, -, -⟩ := advances_of_step h
  rw [forwards_advances hadv, if_pos ⟨rfl, rfl⟩, hv.unfinished t _ (Nat.le_refl _), List.nil_append]

/-- A call that ends with this step has handed its record to the sink, unless the binding is stopped
or its registration was refused. -/
theorem Served.end_of_step (hv : m.Served programs) (hm : m.Sound)
    (h : m.step programs t = some m') {r : LogRecord}
    (hr : (programs t)[m.finished t]? = some (.write r)) (hend : m.finished t < m'.finished t) :
    m'.shared.binding.stopped = true ∨ m'.shared.binding.registration = .refused ∨
      ∃ g, forwards m'.shared.log t (m.finished t) = [(g, r)] := by
  obtain ⟨pos', hadv, -, hf⟩ := advances_of_step h
  have hidle' : pos'.isIdle = true := by
    by_contra hidle
    rw [(finished_update hf).1, if_neg hidle] at hend
    exact Nat.lt_irrefl _ hend
  have hidle : (m.position t).isIdle = false := by
    by_contra hidle
    obtain ⟨-, -, hbusy⟩ := exists_next_of_advances hadv (Bool.of_not_eq_false hidle)
    rw [hidle'] at hbusy
    cases hbusy
  obtain ⟨c, hnext, hserves⟩ := hv.serves t hidle
  cases hr.symm.trans hnext
  rcases end_of_write hadv (hm.position t) hserves hidle hidle' with hs | href | ⟨g, hg⟩
  · exact .inl hs
  · exact .inr (.inl href)
  · exact .inr (.inr ⟨g, by rw [hv.forwards_step h, hg]; rfl⟩)

/-- After a step, too, a call has handed at most its own record to the sink. -/
theorem Served.forwarded_step (hv : m.Served programs) (hm : m.Sound)
    (h : m.step programs t = some m') (u : ι) (k : Nat) :
    forwards m'.shared.log u k = [] ∨
      ∃ h r, forwards m'.shared.log u k = [(h, r)] ∧ (programs u)[k]? = some (.write r) ∧
        m'.shared.binding.registration = .granted h := by
  obtain ⟨pos', hadv, -, -⟩ := advances_of_step h
  have hc := change_of_advances hadv
  have hpos := hm.position t
  by_cases hu : t = u ∧ m.finished t = k
  · obtain ⟨rfl, rfl⟩ := hu
    rw [hv.forwards_step h]
    cases hat : m.position t with
    | forward g r =>
      rw [hat] at hpos hc
      obtain ⟨c, hnext, hserves⟩ := hv.serves t (by rw [hat]; rfl)
      rw [hat] at hserves
      cases hserves
      exact .inr ⟨g, r, rfl, hnext, granted_of_change hc hpos hpos⟩
    | _ => exact .inl rfl
  · rw [forwards_of_step h hu]
    rcases hv.forwarded u k with hnil | ⟨g, r, hone, hr, hg⟩
    · exact .inl hnil
    · exact .inr ⟨g, r, hone, hr, granted_of_change hc hpos hg⟩

/-- After a step, too, no record is lost while the binding is neither stopped nor refused. -/
theorem Served.complete_step (hv : m.Served programs) (hm : m.Sound)
    (h : m.step programs t = some m') (hst : m'.shared.binding.stopped = false) {u : ι} {k : Nat}
    {r : LogRecord} (hk : k < m'.finished u) (hr : (programs u)[k]? = some (.write r)) :
    m'.shared.binding.registration = .refused ∨ ∃ h, forwards m'.shared.log u k = [(h, r)] := by
  obtain ⟨pos', hadv, -, hf⟩ := advances_of_step h
  have hc := change_of_advances hadv
  have hpos := hm.position t
  obtain ⟨hself, hother⟩ := finished_update hf
  have hst' : m.shared.binding.stopped = false := by
    by_contra hs
    rw [stopped_of_change hc (Bool.of_not_eq_false hs)] at hst
    cases hst
  by_cases hold : k < m.finished u
  · have hne : ¬(t = u ∧ m.finished t = k) := by
      rintro ⟨rfl, rfl⟩
      exact Nat.lt_irrefl _ hold
    rw [forwards_of_step h hne]
    rcases hv.complete hst' u k r hold hr with href | hone
    · left
      rw [registration_of_change hc hpos (by rw [href]; simp), href]
    · exact .inr hone
  · have hu : u = t := by
      by_contra hu
      rw [hother u hu] at hk
      exact hold hk
    subst hu
    have hn : k = m.finished u := by
      rw [hself] at hk
      split at hk <;> omega
    subst hn
    rcases hv.end_of_step hm h hr hk with hs | hone
    · rw [hst] at hs; cases hs
    · exact hone

/-- Every step keeps what holds of the records. -/
theorem Served.step (hv : m.Served programs) (hm : m.Sound) (h : m.step programs t = some m') :
    m'.Served programs := by
  obtain ⟨pos', hadv, hp, hf⟩ := advances_of_step h
  obtain ⟨hself, hother⟩ := finished_update hf
  refine
    { serves := fun u hidle => ?_
      unfinished := fun u k hk => ?_
      forwarded := hv.forwarded_step hm h
      complete := fun hst u k r hk hr => hv.complete_step hm h hst hk hr }
  · by_cases hu : u = t
    · subst hu
      rw [hp, Function.update_self] at hidle ⊢
      rw [hself, hidle]
      exact hv.serves_step hadv
    · rw [hp, Function.update_of_ne hu] at hidle ⊢
      rw [hother u hu]
      exact hv.serves u hidle
  · by_cases hu : t = u ∧ m.finished t = k
    · obtain ⟨rfl, rfl⟩ := hu
      rw [hv.forwards_step h]
      by_contra hrec
      rw [hself, if_pos (isIdle_of_records hadv hrec)] at hk
      exact Nat.not_succ_le_self _ hk
    · rw [forwards_of_step h hu]
      exact hv.unfinished u k (Nat.le_trans (finished_le_of_step h u) hk)

/-- What holds of the records holds all through a run. -/
theorem Served.run (hv : m.Served programs) (hm : m.Sound) (schedule : List ι) :
    (m.run programs schedule).Served programs := by
  have hstep : ∀ (m : Threads ι σ) t m', m.Sound ∧ m.Served programs →
      m.step programs t = some m' → m'.Sound ∧ m'.Served programs :=
    fun _ _ _ hboth h => ⟨hboth.1.step h, hboth.2.step hboth.1 h⟩
  exact (run_induction hstep ⟨hm, hv⟩ schedule).2

theorem served_run (programs : ι → List Call) (logSystem : String) (sink : σ) (schedule : List ι) :
    ((initial logSystem sink).run programs schedule).Served programs :=
  Served.run (served_initial logSystem sink) (sound_initial logSystem sink) schedule

/-! ## Where a stop comes from -/

/-- A program stops the binding, or the sink stops who registers. -/
def CanStop (σ : Type) [Sink σ] (programs : ι → List Call) : Prop :=
  (∃ t, .stop ∈ programs t) ∨
    ∃ (logSystem : String) (sink : σ), (Sink.start logSystem sink).stopsCaller = true

omit [DecidableEq ι] in
theorem canStop_of_halt {number : Nat} {k : Return}
    (h : Advances t number (programs t)[number]? s pos s' pos') (hpos' : pos' = .halt k) :
    CanStop σ programs := by
  cases h with
  | begin c hc =>
    cases c with
    | stop => exact .inl ⟨t, List.mem_of_getElem? hc⟩
    | _ => cases hpos'
  | askStopped p hr hn hstops => exact .inr ⟨_, _, hstops⟩
  | checkStopped p => cases p <;> cases hpos'
  | haltAgain k' | releaseNothing k' | claimAgain k' g | shutdown k' g =>
    cases k' <;> cases hpos'
  | _ => cases hpos'

/-- A binding is stopped, or about to be, because somebody can stop it. -/
structure StopsExplained (programs : ι → List Call) (m : Threads ι σ) : Prop where
  halting : ∀ t k, m.position t = .halt k → CanStop σ programs
  stopped : m.shared.binding.stopped = true → CanStop σ programs

theorem StopsExplained.step (he : m.StopsExplained programs) (h : m.step programs t = some m') :
    m'.StopsExplained programs := by
  obtain ⟨pos', hadv, hp, -⟩ := advances_of_step h
  refine ⟨fun u k hu => ?_, fun hst => ?_⟩
  · rw [hp] at hu
    by_cases hut : u = t
    · rw [hut, Function.update_self] at hu
      exact canStop_of_halt hadv hu
    · rw [Function.update_of_ne hut] at hu
      exact he.halting u k hu
  · rcases stopped_cases_of_change (change_of_advances hadv) with hsame | ⟨⟨k, hpos⟩, -⟩
    · rw [hsame] at hst
      exact he.stopped hst
    · exact he.halting t k hpos

theorem StopsExplained.run (he : m.StopsExplained programs) (schedule : List ι) :
    (m.run programs schedule).StopsExplained programs :=
  run_induction (fun _ _ _ he h => he.step h) he schedule

/-- Only a stop that a program or the sink makes stops a binding. -/
theorem canStop_of_stopped {logSystem : String} {sink : σ} {schedule : List ι}
    (hst : ((initial logSystem sink).run programs schedule).shared.binding.stopped = true) :
    CanStop σ programs := by
  have he : (initial logSystem sink : Threads ι σ).StopsExplained programs :=
    { halting := fun _ _ h => by cases h
      stopped := fun h => by cases h }
  exact (he.run schedule).stopped hst

end Threads

/-! ## Whole runs -/

section Runs

variable [DecidableEq ι] {programs : ι → List Call} {m : Threads ι σ}

/-- Where a record was handed to the sink, its call handed it over. -/
theorem forwards_of_write_mem {log : List (Event ι)} {t : ι} {k : Nat} {h : Handle} {r : LogRecord}
    (hmem : .write t k h r ∈ log) : (h, r) ∈ forwards log t k :=
  List.mem_filterMap.mpr ⟨_, hmem, if_pos ⟨rfl, rfl⟩⟩

/-- Nothing is written through a registration that was refused, and it is not given back. -/
theorem Threads.Served.silent_of_refused (hv : m.Served programs) (hm : m.Sound) {e : SinkError}
    (he : .refused e ∈ m.shared.log) {event : Event ι} (hevent : event ∈ m.shared.log) :
    event.isWrite = false ∧ event.isShutdown = false := by
  have hno := hm.phase.granted_not_mem_of_refused he
  cases event with
  | write t k h r =>
    have hmem := forwards_of_write_mem hevent
    rcases hv.forwarded t k with hnil | ⟨g, r', -, -, hg⟩
    · rw [hnil] at hmem; cases hmem
    · exact (hno g ((hm.phase.granted_mem_iff hg g).mpr rfl)).elim
  | shutdown h =>
    obtain ⟨pre, post, hlog⟩ := List.append_of_mem hevent
    have hpre := hm.phase.granted_mem_of_shutdown hlog
    exact (hno h (by rw [hlog]; exact List.mem_append_left _ hpre)).elim
  | _ => exact ⟨rfl, rfl⟩

/-- A call hands at most its own record to the sink, through the handle that was granted. -/
theorem Threads.Served.forwards_cases (hv : m.Served programs) (hm : m.Sound) (t : ι) (k : Nat) :
    forwards m.shared.log t k = [] ∨
      ∃ h r, .granted h ∈ m.shared.log ∧ (programs t)[k]? = some (.write r) ∧
        forwards m.shared.log t k = [(h, r)] := by
  rcases hv.forwarded t k with hnil | ⟨g, r, hone, hr, hg⟩
  · exact .inl hnil
  · exact .inr ⟨g, r, (hm.phase.granted_mem_iff hg g).mpr rfl, hr, hone⟩

/-- Over a registration that was granted and a binding that is not stopped, no record is lost. -/
theorem Threads.Served.forwards_of_granted (hv : m.Served programs) (hm : m.Sound)
    (hst : m.shared.binding.stopped = false) {h : Handle} (hh : .granted h ∈ m.shared.log) {t : ι}
    {k : Nat} {r : LogRecord} (hk : k < m.finished t) (hr : (programs t)[k]? = some (.write r)) :
    forwards m.shared.log t k = [(h, r)] := by
  rcases hv.complete hst t k r hk hr with href | ⟨g, hone⟩
  · obtain ⟨e, hl⟩ := hm.consistent.refused href
    rw [mem_log_iff rfl, hl] at hh
    simp at hh
  · rcases hv.forwarded t k with hnil | ⟨g', r', hone', -, hg⟩
    · rw [hnil] at hone; cases hone
    · cases hone.symm.trans hone'
      rw [hone, (hm.phase.granted_mem_iff hg h).mp hh]

/-- However the calls of any number of threads mix, the sink is asked for at most one registration;
it gets back exactly the registration that it granted to a binding that was stopped since, once; and
every record goes to it at most once, and exactly once if it granted a registration and nobody
stopped the binding. -/
theorem registered_and_returned_once [Sink σ] (programs : ι → List Call) (logSystem : String)
    (sink : σ) (schedule : List ι) :
    let m := (Threads.initial logSystem sink).run programs schedule
    let log := m.shared.log
    log.countP Event.isStart ≤ 1 ∧
    log.countP Event.isShutdown ≤ 1 ∧
    (∀ pre h post, log = pre ++ .shutdown h :: post → .granted h ∈ pre) ∧
    ((∀ t, m.position t = .idle) →
      ((∃ h, .shutdown h ∈ log) ↔
        (∃ h, .granted h ∈ log) ∧ m.shared.binding.stopped = true)) ∧
    (∀ e, .refused e ∈ log → ∀ event ∈ log, event.isWrite = false ∧ event.isShutdown = false) ∧
    (∀ t k, forwards log t k = [] ∨
      ∃ h r, .granted h ∈ log ∧ (programs t)[k]? = some (.write r) ∧ forwards log t k = [(h, r)]) ∧
    (∀ h, .granted h ∈ log → m.shared.binding.stopped = false →
      ∀ t k r, k < m.finished t → (programs t)[k]? = some (.write r) →
        forwards log t k = [(h, r)]) ∧
    (m.shared.binding.stopped = true → (∃ t, .stop ∈ programs t) ∨
      ∃ (name : String) (s : σ), (Sink.start name s).stopsCaller = true) := by
  have hm := Threads.sound_run programs logSystem sink schedule
  have hv := Threads.served_run programs logSystem sink schedule
  refine ⟨hm.phase.countP_isStart, hm.phase.countP_isShutdown, fun pre h post hlog => ?_,
    hm.shutdown_iff, fun e he event hevent => hv.silent_of_refused hm he hevent,
    hv.forwards_cases hm, fun h hh hst t k r hk hr => hv.forwards_of_granted hm hst hh hk hr,
    Threads.canStop_of_stopped⟩
  exact hm.phase.granted_mem_of_shutdown hlog

end Runs

end LogOrigin.Binding
