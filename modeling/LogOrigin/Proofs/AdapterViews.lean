import LogOrigin.AdapterSet.Operation
import LogOrigin.Proofs.WatchedAdapters

/-!
# What one framework sees

The adapters share a sink, and yet what happens to one framework (`AdapterSet.view`) follows from
the operations that concern it and from the answer that it gets from the sink (`View.after`).
-/

namespace LogOrigin

open AdapterSet (Operation)
open Framework (all)
open SinkCall (answersTo records)

/-- What a framework sees of the adapters and their sink: the state of its adapter, the answers to
its registrations, and the records with its tag. -/
structure View where
  state : AdapterState
  answers : List Answer
  records : List LogRecord

namespace View

/-- The view of a framework whose adapter has not been used. -/
def fresh : View := ⟨.uninitialized, [], []⟩

/-- The adapter registers, unless it has tried to or is stopped. -/
def ask (v : View) (a : Answer) : View :=
  if v.state = .uninitialized then ⟨a.state, v.answers ++ [a], v.records⟩ else v

/-- The adapter hands over a record, if it is started. -/
def give (v : View) (r? : Option LogRecord) : View :=
  if v.state = .started then { v with records := v.records ++ r?.toList } else v

/-- The adapter stops. -/
def stop (v : View) : View := { v with state := .stopped }

/-- The view after an operation that concerns the framework. A registration gets the answer `a`, and
events have the records that `record` gives. -/
def after (record : Instant → CapturedEvent → Option LogRecord) (a : Answer) (v : View) :
    Operation → View
  | .start _ | .startAll => v.ask a
  | .append now e | .dispatch now e => if e.isOff then v else (v.ask a).give (record now e)
  | .stop _ | .stopAll => v.stop
  | .appendNothing _ | .normalize _ _ | .isFiltered _ | .state _ => v

end View

/-! ## The answers decide -/

theorem Answer.state_ne (a : Answer) : a.state ≠ .uninitialized := by
  obtain ⟨granted, stopsCaller⟩ := a
  cases granted <;> cases stopsCaller <;> decide

theorem Answer.state_eq_started_iff (a : Answer) : a.state = .started ↔ a = ⟨true, false⟩ := by
  obtain ⟨granted, stopsCaller⟩ := a
  cases granted <;> cases stopsCaller <;> decide

namespace View

variable {v : View}

@[simp] theorem give_state (v : View) (r? : Option LogRecord) : (v.give r?).state = v.state := by
  unfold give
  split <;> rfl

@[simp] theorem give_answers (v : View) (r? : Option LogRecord) :
    (v.give r?).answers = v.answers := by
  unfold give
  split <;> rfl

theorem ask_of_uninitialized (hu : v.state = .uninitialized) (a : Answer) :
    v.ask a = ⟨a.state, v.answers ++ [a], v.records⟩ := if_pos hu

theorem ask_of_ne (hu : v.state ≠ .uninitialized) (a : Answer) : v.ask a = v := if_neg hu

variable (record : Instant → CapturedEvent → Option LogRecord)

/-- An operation that needs an adapter has it ask for an answer if it has not been used. Otherwise
the answer does not matter, and the adapter only changes if the operation stops it. -/
theorem after_cases (v : View) {f : Framework} {op : Operation} (hop : op.concerns f = true)
    (a : Answer) :
    (v.state = .uninitialized ∧ op.starts f = true ∧
      (v.after record a op).answers = v.answers ++ [a] ∧ (v.after record a op).state = a.state) ∨
    ((v.state = .uninitialized → op.starts f = false) ∧
      (∀ b, v.after record b op = v.after record a op) ∧
      (v.after record a op).answers = v.answers ∧
      (v.after record a op).state = if op.stops f then .stopped else v.state) := by
  cases op with
  | start g =>
    obtain rfl := Operation.eq_of_concerns hop rfl
    by_cases hu : v.state = .uninitialized
    · left
      simp [hu, Operation.starts, after, ask_of_uninitialized hu]
    · right
      simp [hu, Operation.stops, after, ask_of_ne hu]
  | startAll =>
    by_cases hu : v.state = .uninitialized
    · left
      simp [hu, Operation.starts, after, ask_of_uninitialized hu]
    · right
      simp [hu, Operation.stops, after, ask_of_ne hu]
  | append now e | dispatch now e =>
    obtain rfl := Operation.eq_of_concerns hop rfl
    cases hoff : e.isOff with
    | true =>
      right
      simp [Operation.starts, Operation.stops, Operation.event?, after, hoff]
    | false =>
      by_cases hu : v.state = .uninitialized
      · left
        simp [hu, Operation.starts, Operation.event?, after, hoff, ask_of_uninitialized hu]
      · right
        simp [hu, Operation.stops, after, hoff, ask_of_ne hu]
  | stop g =>
    obtain rfl := Operation.eq_of_concerns hop rfl
    right
    simp [Operation.starts, Operation.stops, Operation.event?, after, stop]
  | stopAll =>
    right
    simp [Operation.starts, Operation.stops, Operation.event?, after, stop]
  | appendNothing g | normalize now e | isFiltered e | state g =>
    right
    simp [Operation.starts, Operation.stops, Operation.event?, after]

/-- The view after operations that concern the framework. -/
def afterAll (record : Instant → CapturedEvent → Option LogRecord) (a : Answer) (v : View)
    (ops : List Operation) : View :=
  ops.foldl (after record a) v

variable {f : Framework} {ops : List Operation} (hops : ∀ op ∈ ops, op.concerns f = true)

include hops

/-- No answer comes after the registration. -/
theorem afterAll_of_ne (hu : v.state ≠ .uninitialized) (a b : Answer) :
    v.afterAll record a ops = v.afterAll record b ops ∧
      (v.afterAll record a ops).answers = v.answers := by
  induction ops generalizing v with
  | nil => exact ⟨rfl, rfl⟩
  | cons op ops ih =>
    obtain ⟨hu', -⟩ | ⟨-, hsame, hanswers, hstate⟩ :=
      v.after_cases record (hops op List.mem_cons_self) a
    · exact absurd hu' hu
    · have hu' : (v.after record a op).state ≠ .uninitialized := by
        rw [hstate]
        split
        · decide
        · exact hu
      obtain ⟨hsame', hanswers'⟩ := ih (fun o ho => hops o (List.mem_cons_of_mem _ ho)) hu'
      refine ⟨?_, hanswers'.trans hanswers⟩
      show (v.after record a op).afterAll record a ops =
        (v.after record b op).afterAll record b ops
      rw [hsame', hsame b]

/-- The same answers make the same view. -/
theorem afterAll_eq_of_answers {a b : Answer}
    (h : (v.afterAll record a ops).answers = (v.afterAll record b ops).answers) :
    v.afterAll record a ops = v.afterAll record b ops := by
  induction ops generalizing v with
  | nil => rfl
  | cons op ops ih =>
    have hops' : ∀ o ∈ ops, o.concerns f = true := fun o ho => hops o (List.mem_cons_of_mem _ ho)
    change ((v.after record a op).afterAll record a ops).answers =
      ((v.after record b op).afterAll record b ops).answers at h
    show (v.after record a op).afterAll record a ops = (v.after record b op).afterAll record b ops
    -- both views ask for an answer here, or neither does
    obtain ⟨hu, hstarts, hanswers, hstate⟩ | ⟨-, hsame, -, -⟩ :=
      v.after_cases record (hops op List.mem_cons_self) a
    · obtain ⟨-, -, hanswers', hstate'⟩ | ⟨hnot, -⟩ :=
        v.after_cases record (hops op List.mem_cons_self) b
      · have hne : (v.after record a op).state ≠ .uninitialized := by
          rw [hstate]
          exact a.state_ne
        have hne' : (v.after record b op).state ≠ .uninitialized := by
          rw [hstate']
          exact b.state_ne
        rw [(afterAll_of_ne record hops' hne a a).2, (afterAll_of_ne record hops' hne' b b).2,
          hanswers, hanswers'] at h
        have hab : a = b := List.singleton_inj.mp (List.append_cancel_left h)
        rw [hab]
      · rw [hnot hu] at hstarts
        cases hstarts
    · rw [hsame b] at h ⊢
      exact ih hops' h

end View

namespace AdapterSet

variable {σ : Type} {s s' : AdapterSet (WatchedSink σ)} {f g : Framework} {c : Binding.Call}

/-- The view of a framework. -/
def view (s : AdapterSet (WatchedSink σ)) (f : Framework) : View where
  state := s.state f
  answers := answersTo f.logSystem s.sink.calls
  records := (records s.sink.calls).filter fun r => r.logSystem = f.logSystem

/-! ## Calls of bindings -/

/-- A framework does not see what the adapter of another one does. -/
theorem Heard.view_of_ne (hs : s.Heard) (ha : Acts f c s s')
    (htag : ∀ r ∈ c.record?, r.logSystem = f.logSystem) (hg : g ≠ f) : s'.view g = s.view g := by
  obtain ⟨b, heard, hdoes, hb, hcalls⟩ := ha
  have hname : f.logSystem ≠ g.logSystem := fun h => hg (Framework.logSystem_injective h).symm
  have hanswers : answersTo g.logSystem heard = [] := by
    refine hdoes.answersTo_of_ne ?_
    rw [hs.named]
    exact hname
  have hrecords : (records heard).filter (fun r => r.logSystem = g.logSystem) = [] := by
    rw [hdoes.records, List.filter_eq_nil_iff]
    intro r hr
    rw [htag r (by simpa using hr)]
    simpa using hname
  simp only [view, state_set_of_ne hb hg, hcalls, SinkCall.answersTo_append,
    SinkCall.records_append, List.filter_append, hanswers, hrecords, List.append_nil]

/-- The view of the framework whose adapter makes a call. -/
theorem Heard.view_self (hs : s.Heard) (ha : Acts f c s s')
    (htag : ∀ r ∈ c.record?, r.logSystem = f.logSystem) :
    ∃ b heard, (s.bindings.get f).Does c b heard ∧
      s'.view f = ⟨b.state, (s.view f).answers ++ answersTo (s.bindings.get f).logSystem heard,
        (s.view f).records ++ c.record?.toList⟩ := by
  obtain ⟨b, heard, hdoes, hb, hcalls⟩ := ha
  have hrecords : (records heard).filter (fun r => r.logSystem = f.logSystem) =
      c.record?.toList := by
    rw [hdoes.records, List.filter_eq_self]
    intro r hr
    simpa using htag r (by simpa using hr)
  refine ⟨b, heard, hdoes, ?_⟩
  simp only [view, state_set_self hb, hcalls, SinkCall.answersTo_append,
    SinkCall.records_append, List.filter_append, hrecords, hs.named]

/-- The sink receives the record that a call writes. -/
theorem Acts.records (ha : Acts f c s s') :
    records s'.sink.calls = records s.sink.calls ++ c.record?.toList := by
  obtain ⟨b, heard, hdoes, -, hcalls⟩ := ha
  rw [hcalls, SinkCall.records_append, hdoes.records]

/-- Doing one thing with several adapters in turn does it for each of them. -/
theorem Heard.foldl (act : AdapterSet (WatchedSink σ) → Framework → AdapterSet (WatchedSink σ))
    (effect : View → View → Prop) (hact : ∀ s f, Heard s → (act s f).Heard ∧
      effect (s.view f) ((act s f).view f) ∧ (∀ g, g ≠ f → (act s f).view g = s.view g) ∧
      records (act s f).sink.calls = records s.sink.calls)
    (hs : s.Heard) (fs : List Framework) (hn : fs.Nodup) :
    (fs.foldl act s).Heard ∧
    (∀ f, if f ∈ fs then effect (s.view f) ((fs.foldl act s).view f)
      else (fs.foldl act s).view f = s.view f) ∧
    records (fs.foldl act s).sink.calls = records s.sink.calls := by
  induction fs generalizing s with
  | nil => exact ⟨hs, fun f => rfl, rfl⟩
  | cons g fs ih =>
    obtain ⟨hg, hn'⟩ := List.nodup_cons.mp hn
    obtain ⟨hs₁, hself, hother, hrecords⟩ := hact s g hs
    obtain ⟨hs₂, hviews, hrecords₂⟩ := ih hs₁ hn'
    refine ⟨hs₂, fun f => ?_, hrecords₂.trans hrecords⟩
    have hview := hviews f
    by_cases hf : f = g
    · -- the adapter does not come up again
      subst hf
      rw [if_neg hg] at hview
      rw [if_pos List.mem_cons_self]
      show effect _ ((fs.foldl act (act s f)).view f)
      rw [hview]
      exact hself
    · rw [hother f hf] at hview
      simp only [List.mem_cons, hf, false_or]
      exact hview

variable [Sink σ]

theorem Heard.view_start (hs : s.Heard) (f : Framework) :
    ∃ a, (s.start f).view f = (s.view f).ask a := by
  obtain ⟨b, heard, hdoes, hview⟩ := hs.view_self (hs.acts_start f) (by simp [Binding.Call.record?])
  have hstart := hdoes.start
  rw [hview]
  by_cases hu : (s.bindings.get f).state = .uninitialized
  · rw [if_pos hu] at hstart
    obtain ⟨a, hanswers, hstate⟩ := hstart
    refine ⟨a, ?_⟩
    rw [View.ask_of_uninitialized (v := s.view f) hu, hanswers, hstate]
    simp [Binding.Call.record?]
  · rw [if_neg hu] at hstart
    obtain ⟨hanswers, hstate⟩ := hstart
    refine ⟨⟨true, true⟩, ?_⟩
    rw [View.ask_of_ne (v := s.view f) hu, hanswers, hstate]
    simp [Binding.Call.record?, view, state]

theorem Heard.view_stop (hs : s.Heard) (f : Framework) :
    (s.stop f).view f = (s.view f).stop := by
  obtain ⟨b, heard, hdoes, hview⟩ := hs.view_self (hs.acts_stop f) (by simp [Binding.Call.record?])
  obtain ⟨hanswers, hstate⟩ := hdoes.stop
  rw [hview, hanswers, hstate]
  simp [Binding.Call.record?, View.stop]

theorem Heard.view_write (hs : s.Heard) (hst : s.state f = .started) {r : LogRecord}
    (htag : r.logSystem = f.logSystem) :
    (s.act f (·.write r)).view f = (s.view f).give (some r) := by
  obtain ⟨b, heard, hdoes, hview⟩ := hs.view_self (acts_write hst r) (by
    intro r' hr'
    cases hr'
    exact htag)
  obtain ⟨-, hanswers, hstate⟩ := hdoes.write
  have hgive : (s.view f).give (some r) =
      { s.view f with records := (s.view f).records ++ [r] } := if_pos hst
  rw [hview, hanswers, hstate, List.append_nil, hgive]
  rfl

/-! ## Calls of adapters -/

theorem Heard.start (hs : s.Heard) (f : Framework) : (s.start f).Heard := hs.acts (hs.acts_start f)

theorem Heard.stop (hs : s.Heard) (f : Framework) : (s.stop f).Heard := hs.acts (hs.acts_stop f)

theorem Heard.view_start_of_ne (hs : s.Heard) (hg : g ≠ f) : (s.start f).view g = s.view g :=
  hs.view_of_ne (hs.acts_start f) (by simp [Binding.Call.record?]) hg

theorem Heard.view_stop_of_ne (hs : s.Heard) (hg : g ≠ f) : (s.stop f).view g = s.view g :=
  hs.view_of_ne (hs.acts_stop f) (by simp [Binding.Call.record?]) hg

theorem Heard.records_start (hs : s.Heard) (f : Framework) :
    records (s.start f).sink.calls = records s.sink.calls :=
  (hs.acts_start f).records.trans (List.append_nil _)

theorem Heard.records_stop (hs : s.Heard) (f : Framework) :
    records (s.stop f).sink.calls = records s.sink.calls :=
  (hs.acts_stop f).records.trans (List.append_nil _)

/-- Once it has been asked to start, an adapter is past its registration. -/
theorem Heard.state_start_ne (hs : s.Heard) (f : Framework) :
    (s.start f).state f ≠ .uninitialized := by
  obtain ⟨a, hview⟩ := hs.view_start f
  have hstate : (s.start f).state f = ((s.view f).ask a).state := congrArg View.state hview
  rw [hstate]
  by_cases hu : (s.view f).state = .uninitialized
  · rw [View.ask_of_uninitialized hu]
    exact a.state_ne
  · rw [View.ask_of_ne hu]
    exact hu

/-- An event is accepted exactly if it leaves its adapter started. -/
theorem Heard.accepts_iff (hs : s.Heard) (e : CapturedEvent) :
    s.accepts e = true ↔
      e.isOff = false ∧ (s.start e.framework).state e.framework = .started := by
  have hne := hs.state_start_ne e.framework
  rw [accepts]
  cases hst : (s.start e.framework).state e.framework with
  | uninitialized => exact absurd hst hne
  | started | failed | stopped => cases e.isOff <;> decide

/-- What an event comes to for its own framework. -/
theorem Heard.append (hs : s.Heard) (now : Instant) (e : CapturedEvent) :
    (s.append now e).Heard ∧
    (∃ a, (s.append now e).view e.framework =
      (s.view e.framework).after s.normalize a (.append now e)) ∧
    (∀ g, g ≠ e.framework → (s.append now e).view g = s.view g) ∧
    (records (s.append now e).sink.calls).map some = (records s.sink.calls).map some ++
      if s.accepts e then [s.normalize now e] else [] := by
  cases hoff : e.isOff with
  | true =>
    have hview : ∀ a, (s.view e.framework).after s.normalize a (.append now e) =
        s.view e.framework := fun a => if_pos hoff
    have haccepts : s.accepts e = false := by rw [accepts, hoff]; rfl
    rw [append_of_isOff hoff]
    refine ⟨hs, ⟨⟨true, true⟩, (hview _).symm⟩, fun g hg => rfl, ?_⟩
    rw [haccepts]
    exact (List.append_nil _).symm
  | false =>
    have hs₁ := hs.start e.framework
    obtain ⟨a, hstart⟩ := hs.view_start e.framework
    have hview : (s.view e.framework).after s.normalize a (.append now e) =
        ((s.start e.framework).view e.framework).give (s.normalize now e) := by
      rw [hstart]
      exact if_neg (by rw [hoff]; decide)
    have hrecords := hs.records_start e.framework
    by_cases hst : (s.start e.framework).state e.framework = .started
    · obtain ⟨r, hr, htag⟩ := normalize_of_not_isOff (s := s) hoff now
      have hacts := acts_write hst r
      rw [append_eq_write hoff hst hr]
      refine ⟨hs₁.acts hacts, ⟨a, ?_⟩, fun g hg => ?_, ?_⟩
      · rw [hview, hr]
        exact hs₁.view_write hst htag
      · rw [hs₁.view_of_ne hacts (by simpa [Binding.Call.record?] using htag) hg,
          hs.view_start_of_ne hg]
      · rw [hacts.records, hrecords, if_pos ((hs.accepts_iff e).mpr ⟨hoff, hst⟩), hr]
        simp [Binding.Call.record?]
    · have hgive : ((s.start e.framework).view e.framework).give (s.normalize now e) =
          (s.start e.framework).view e.framework := if_neg hst
      have haccepts : ¬ s.accepts e = true := fun h => hst ((hs.accepts_iff e).mp h).2
      rw [append_eq_start hoff hst]
      refine ⟨hs₁, ⟨a, ?_⟩, fun g hg => hs.view_start_of_ne hg, ?_⟩
      · rw [hview, hgive]
      · rw [hrecords, if_neg haccepts, List.append_nil]

/-! ## Operations -/

theorem Heard.startAll (hs : s.Heard) :
    s.startAll.Heard ∧ (∀ f, ∃ a, s.startAll.view f = (s.view f).ask a) ∧
      records s.startAll.sink.calls = records s.sink.calls := by
  obtain ⟨hs', hviews, hrecords⟩ := Heard.foldl AdapterSet.start (fun v w => ∃ a, w = v.ask a)
    (fun s f hs => ⟨hs.start f, hs.view_start f, fun g hg => hs.view_start_of_ne hg,
      hs.records_start f⟩) hs all (by decide)
  refine ⟨hs', fun f => ?_, hrecords⟩
  have hview := hviews f
  rwa [if_pos (by cases f <;> decide)] at hview

theorem Heard.stopAll (hs : s.Heard) :
    s.stopAll.Heard ∧ (∀ f, s.stopAll.view f = (s.view f).stop) ∧
      records s.stopAll.sink.calls = records s.sink.calls := by
  obtain ⟨hs', hviews, hrecords⟩ := Heard.foldl AdapterSet.stop (fun v w => w = v.stop)
    (fun s f hs => ⟨hs.stop f, hs.view_stop f, fun g hg => hs.view_stop_of_ne hg,
      hs.records_stop f⟩) hs all (by decide)
  refine ⟨hs', fun f => ?_, hrecords⟩
  have hview := hviews f
  rwa [if_pos (by cases f <;> decide)] at hview

theorem Heard.operate (hs : s.Heard) (op : Operation) : (s.operate op).Heard := by
  cases op with
  | start f => exact hs.start f
  | append now e | dispatch now e => exact (hs.append now e).1
  | stop f => exact hs.stop f
  | startAll => exact hs.startAll.1
  | stopAll => exact hs.stopAll.1
  | appendNothing f | normalize now e | isFiltered e | state f => exact hs

/-- What an operation does to the view of a framework that it concerns. -/
theorem Heard.view_operate (hs : s.Heard) {op : Operation} (hop : op.concerns f = true) :
    ∃ a, (s.operate op).view f = (s.view f).after s.normalize a op := by
  cases op with
  | start g =>
    obtain rfl := Operation.eq_of_concerns hop rfl
    exact hs.view_start g
  | append now e | dispatch now e =>
    obtain rfl := Operation.eq_of_concerns hop rfl
    exact (hs.append now e).2.1
  | stop g =>
    obtain rfl := Operation.eq_of_concerns hop rfl
    exact ⟨⟨true, true⟩, hs.view_stop g⟩
  | startAll => exact hs.startAll.2.1 f
  | stopAll => exact ⟨⟨true, true⟩, hs.stopAll.2.1 f⟩
  | appendNothing g | normalize now e | isFiltered e | state g => exact ⟨⟨true, true⟩, rfl⟩

/-- No other operation changes what a framework sees. -/
theorem Heard.view_operate_of_not (hs : s.Heard) {op : Operation} (hop : op.concerns f = false) :
    (s.operate op).view f = s.view f := by
  cases op with
  | start g =>
    have hg := Operation.ne_of_not_concerns hop rfl
    exact hs.view_start_of_ne hg.symm
  | append now e | dispatch now e =>
    have hg := Operation.ne_of_not_concerns hop rfl
    exact (hs.append now e).2.2.1 f hg.symm
  | stop g =>
    have hg := Operation.ne_of_not_concerns hop rfl
    exact hs.view_stop_of_ne hg.symm
  | startAll | stopAll => cases hop
  | appendNothing g | normalize now e | isFiltered e | state g => rfl

/-- The sink receives the record of the event that an operation hands over, if it is accepted. -/
theorem Heard.records_operate (hs : s.Heard) (op : Operation) :
    (records (s.operate op).sink.calls).map some = (records s.sink.calls).map some ++
      (op.event?.filter fun (_, e) => s.accepts e).toList.map fun (now, e) =>
        s.normalize now e := by
  have hnothing : ∀ {calls : List SinkCall}, records calls = records s.sink.calls →
      (records calls).map some = (records s.sink.calls).map some ++ [] := by
    intro calls h
    rw [h, List.append_nil]
  cases op with
  | start f => exact hnothing (hs.records_start f)
  | append now e | dispatch now e =>
    refine (hs.append now e).2.2.2.trans ?_
    cases haccepts : s.accepts e <;> simp [Operation.event?, Option.filter, haccepts]
  | stop f => exact hnothing (hs.records_stop f)
  | startAll => exact hnothing hs.startAll.2.2
  | stopAll => exact hnothing hs.stopAll.2.2
  | appendNothing f | normalize now e | isFiltered e | state f => exact hnothing rfl

end AdapterSet

end LogOrigin
