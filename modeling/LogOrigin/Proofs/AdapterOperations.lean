import LogOrigin.Proofs.AdapterViews
import LogOrigin.Proofs.SinkMaps
import Mathlib.Data.List.Infix

/-!
# Runs of operations on adapters

Which events reach the sink in the course of any operations, and which operations make an adapter
register or give its registration back. What one framework sees of a run is what it sees when all
operations on the other adapters are left out, as long as the sink gives its adapter the same answer
(`AdapterSet.operateAll_reaches_sink`).
-/

namespace LogOrigin

open AdapterSet (Operation)
open Framework (all)
open SinkCall (answersTo records)

/-! ## Parts of operations -/

namespace AdapterSet.Operation

variable {f : Framework} {op : Operation}

theorem starts_of_not_concerns (hop : op.concerns f = false) : op.starts f = false := by
  cases op with
  | startAll | stopAll => cases hop
  | start g => exact decide_eq_false (ne_of_not_concerns hop rfl)
  | append now e | dispatch now e =>
    simp [starts, event?, ne_of_not_concerns hop rfl]
  | stop g | appendNothing g | normalize now e | isFiltered e | state g => rfl

theorem stops_of_not_concerns (hop : op.concerns f = false) : op.stops f = false := by
  cases op with
  | startAll | stopAll => cases hop
  | stop g => exact decide_eq_false (ne_of_not_concerns hop rfl)
  | start g | append now e | dispatch now e | appendNothing g | normalize now e | isFiltered e
  | state g => rfl

theorem concerns_part (hop : op.concerns f = true) : (op.part f).concerns f = true := by
  cases op with
  | startAll | stopAll => simp [part, concerns, framework?]
  | start g | append now e | dispatch now e | appendNothing g | normalize now e | isFiltered e
  | state g | stop g => exact hop

theorem filter_alone (f : Framework) (ops : List Operation) :
    (alone f ops).filter (concerns f) = alone f ops := by
  rw [List.filter_eq_self]
  intro op hop
  obtain ⟨o, ho, rfl⟩ := List.mem_map.mp hop
  exact concerns_part (List.mem_filter.mp ho).2

end AdapterSet.Operation

/-- All that an operation does to the view of a framework is what its part of it does. -/
theorem View.afterAll_alone (record : Instant → CapturedEvent → Option LogRecord) (a : Answer)
    (v : View) (f : Framework) (ops : List Operation) :
    v.afterAll record a (Operation.alone f ops) =
      v.afterAll record a (ops.filter (Operation.concerns f)) := by
  have hpart : ∀ (w : View) op, w.after record a (Operation.part f op) = w.after record a op := by
    intro w op
    cases op <;> rfl
  simp only [View.afterAll, Operation.alone, List.foldl_map, hpart]

namespace AdapterSet

/-! ## What a run preserves -/

section Generic

variable {σ : Type} [Sink σ]

/-- No operation changes the records of events. -/
theorem normalize_operate (s : AdapterSet σ) (op : Operation) :
    (s.operate op).normalize = s.normalize := by
  have happend : ∀ now e, (s.append now e).normalize = s.normalize := by
    intro now e
    cases hoff : e.isOff with
    | true => rw [append_of_isOff hoff]
    | false =>
      by_cases hst : (s.start e.framework).state e.framework = .started
      · obtain ⟨r, hr, -⟩ := normalize_of_not_isOff (s := s) hoff now
        rw [append_eq_write hoff hst hr]
        rfl
      · rw [append_eq_start hoff hst]
        rfl
  cases op with
  | append now e | dispatch now e => exact happend now e
  | start f | stop f | startAll | stopAll | appendNothing f | normalize now e | isFiltered e
  | state f => rfl

theorem operateAll_append (s : AdapterSet σ) (ops more : List Operation) :
    s.operateAll (ops ++ more) = (s.operateAll ops).operateAll more := List.foldl_append

end Generic

variable {σ : Type} {s : AdapterSet (WatchedSink σ)} {f : Framework}

/-- A registration rests on at most one answer. -/
theorem Heard.answers_length_le (hs : s.Heard) (f : Framework) :
    (answersTo f.logSystem s.sink.calls).length ≤ 1 := by
  have hverdicts := congrArg List.length (hs.verdicts f)
  rw [List.length_map] at hverdicts
  rw [hverdicts]
  cases (s.bindings.get f).registration with
  | pending => exact Nat.zero_le 1
  | refused | granted h => exact Nat.le_refl 1

/-- What is given back is what was granted to adapters that are stopped. -/
theorem Heard.shutdowns_eq (hs : s.Heard) :
    s.sink.calls.countP SinkCall.isShutdown = all.countP fun f =>
      (answersTo f.logSystem s.sink.calls).any Answer.granted && s.state f = .stopped := by
  rw [hs.shutdowns]
  refine List.countP_congr fun f _ => ?_
  have hany : (answersTo f.logSystem s.sink.calls).any Answer.granted =
      (s.bindings.get f).registration.verdicts.any id := by
    rw [← hs.verdicts f, List.any_map]
    rfl
  have hsettled : (s.bindings.get f).released = _ := hs.settled f
  rw [hany, hsettled, state, Binding.state]
  cases (s.bindings.get f).stopped <;> cases hr : (s.bindings.get f).registration <;>
    simp [Binding.handle?, hr, Registration.verdicts]

/-- Nothing has been asked of the adapters, and their sink has not been called. -/
structure Unused (s : AdapterSet (WatchedSink σ)) : Prop extends Heard s where
  view : ∀ f, s.view f = .fresh

theorem Unused.state (hs : s.Unused) (f : Framework) : s.state f = .uninitialized :=
  congrArg View.state (hs.view f)

theorem Unused.answers (hs : s.Unused) (f : Framework) : (s.view f).answers = [] :=
  congrArg View.answers (hs.view f)

theorem unused_watched (config : Config) (stack : List StackFrame) (sink : σ) :
    (ofConfig config stack sink).watched.Unused where
  named f := by cases f <;> rfl
  settled f := by cases f <;> rfl
  verdicts f := by cases f <;> rfl
  shutdowns := by rfl
  view f := by cases f <;> rfl

variable [Sink σ]

theorem Heard.operateAll (hs : s.Heard) (ops : List Operation) : (s.operateAll ops).Heard := by
  induction ops generalizing s with
  | nil => exact hs
  | cons op ops ih => exact ih (hs.operate op)

/-- The sink receives the records of the events that are accepted, in order. -/
theorem Heard.records_operateAll (hs : s.Heard) (ops : List Operation) :
    (records (s.operateAll ops).sink.calls).map some = (records s.sink.calls).map some ++
      (s.accepted ops).map fun (now, e) => s.normalize now e := by
  induction ops generalizing s with
  | nil => exact (List.append_nil _).symm
  | cons op ops ih =>
    have hfirst := hs.records_operate op
    have hrest := ih (hs.operate op)
    rw [normalize_operate] at hrest
    show (records ((s.operate op).operateAll ops).sink.calls).map some = _
    rw [hrest, hfirst, List.append_assoc, accepted, List.map_append]

/-! ## Registrations -/

/-- Only an operation that needs an adapter has it ask for an answer, if it has not been used. -/
theorem Heard.view_cases (hs : s.Heard) (f : Framework) (op : Operation) :
    (s.state f = .uninitialized ∧ op.starts f = true ∧
      ∃ a, ((s.operate op).view f).answers = (s.view f).answers ++ [a] ∧
        (s.operate op).state f = a.state) ∨
    ((s.state f = .uninitialized → op.starts f = false) ∧
      ((s.operate op).view f).answers = (s.view f).answers ∧
      (s.operate op).state f = if op.stops f then .stopped else s.state f) := by
  have hstate : (s.operate op).state f = ((s.operate op).view f).state := rfl
  rw [hstate]
  cases hop : op.concerns f with
  | false =>
    right
    rw [hs.view_operate_of_not hop, Operation.stops_of_not_concerns hop]
    exact ⟨fun _ => Operation.starts_of_not_concerns hop, rfl, rfl⟩
  | true =>
    obtain ⟨a, hview⟩ := hs.view_operate hop
    rw [hview]
    obtain ⟨hu, hstarts, hasks⟩ | ⟨hnot, -, hanswers, hstops⟩ :=
      (s.view f).after_cases s.normalize hop a
    · exact .inl ⟨hu, hstarts, a, hasks⟩
    · exact .inr ⟨hnot, hanswers, hstops⟩

/-- An adapter has not been used as long as no operation starts or stops it. -/
theorem Heard.state_operate (hs : s.Heard) (f : Framework) (op : Operation) :
    (s.operate op).state f = .uninitialized ↔
      s.state f = .uninitialized ∧ op.starts f = false ∧ op.stops f = false := by
  obtain ⟨-, hstarts, a, -, hstate⟩ | ⟨hnot, -, hstate⟩ := hs.view_cases f op
  · rw [hstate, hstarts]
    exact iff_of_false a.state_ne fun h => Bool.noConfusion h.2.1
  · rw [hstate]
    cases hstops : op.stops f with
    | true => simp
    | false => simpa using hnot

theorem Heard.state_operateAll (hs : s.Heard) (f : Framework) (ops : List Operation) :
    (s.operateAll ops).state f = .uninitialized ↔
      s.state f = .uninitialized ∧ ∀ op ∈ ops, op.starts f = false ∧ op.stops f = false := by
  induction ops generalizing s with
  | nil => simp [AdapterSet.operateAll]
  | cons op ops ih =>
    show ((s.operate op).operateAll ops).state f = .uninitialized ↔ _
    rw [ih (hs.operate op), hs.state_operate f op, List.forall_mem_cons, and_assoc]

/-- An adapter has been started at some time if and only if it got an answer that does so. -/
theorem Unused.started_iff (hs : s.Unused) (f : Framework) (ops : List Operation) :
    (∃ pre, pre <+: ops ∧ (s.operateAll pre).state f = .started) ↔
      ⟨true, false⟩ ∈ ((s.operateAll ops).view f).answers := by
  induction ops using List.reverseRecOn with
  | nil =>
    refine iff_of_false ?_ ?_
    · rintro ⟨pre, hpre, hstarted⟩
      rw [List.prefix_nil.mp hpre] at hstarted
      exact absurd ((hs.state f).symm.trans hstarted) (by decide)
    · show _ ∉ (s.view f).answers
      rw [hs.answers f]
      exact List.not_mem_nil
  | append_singleton ops op ih =>
    have hlast : s.operateAll (ops ++ [op]) = (s.operateAll ops).operate op :=
      s.operateAll_append ops [op]
    have hcases : (∃ pre, pre <+: ops ++ [op] ∧ (s.operateAll pre).state f = .started) ↔
        (∃ pre, pre <+: ops ∧ (s.operateAll pre).state f = .started) ∨
          ((s.operateAll ops).operate op).state f = .started := by
      simp only [List.prefix_concat_iff, or_and_right, exists_or, exists_eq_left, hlast]
      exact or_comm
    rw [hcases, ih, hlast]
    obtain ⟨-, -, a, hanswers, hstate⟩ | ⟨-, hanswers, hstate⟩ :=
      (hs.toHeard.operateAll ops).view_cases f op
    · rw [hanswers, hstate, a.state_eq_started_iff, List.mem_append, List.mem_singleton]
      exact or_congr_right eq_comm
    · -- without an answer the adapter is started only if it was before
      rw [hanswers]
      refine or_iff_left_of_imp fun hstarted => ?_
      rw [hstate] at hstarted
      have hnow : (s.operateAll ops).state f = .started := by
        cases hstops : op.stops f with
        | true => rw [hstops] at hstarted; cases hstarted
        | false => rw [hstops] at hstarted; exact hstarted
      exact ih.mp ⟨ops, List.prefix_rfl, hnow⟩

/-- An adapter that the sink stops while it grants the registration is stopped for good. -/
theorem Unused.stopped_of_returned (hs : s.Unused) {f : Framework} {ops : List Operation}
    (h : ⟨true, true⟩ ∈ ((s.operateAll ops).view f).answers) :
    (s.operateAll ops).state f = .stopped := by
  induction ops using List.reverseRecOn with
  | nil =>
    change _ ∈ (s.view f).answers at h
    rw [hs.answers f] at h
    cases h
  | append_singleton ops op ih =>
    have hlast : s.operateAll (ops ++ [op]) = (s.operateAll ops).operate op :=
      s.operateAll_append ops [op]
    rw [hlast] at h ⊢
    obtain ⟨hu, -, a, hanswers, hstate⟩ | ⟨-, hanswers, hstate⟩ :=
      (hs.toHeard.operateAll ops).view_cases f op
    · rw [hanswers] at h
      obtain hbefore | hnow := List.mem_append.mp h
      · rw [ih hbefore] at hu
        cases hu
      · rw [hstate, ← List.mem_singleton.mp hnow]
        rfl
    · rw [hanswers] at h
      rw [hstate, ih h, ite_self]

/-- What a framework sees of a run follows from the operations that concern it and from one
answer. -/
theorem Heard.view_operateAll (hs : s.Heard) (f : Framework) (ops : List Operation) :
    ∃ a, (s.operateAll ops).view f =
      (s.view f).afterAll s.normalize a (ops.filter (Operation.concerns f)) := by
  induction ops generalizing s with
  | nil => exact ⟨⟨true, true⟩, rfl⟩
  | cons op ops ih =>
    obtain ⟨b, hrest⟩ := ih (hs.operate op)
    rw [normalize_operate] at hrest
    have hops : ∀ o ∈ ops.filter (Operation.concerns f), o.concerns f = true :=
      fun o ho => (List.mem_filter.mp ho).2
    show ∃ a, ((s.operate op).operateAll ops).view f = _
    rw [hrest, List.filter_cons]
    cases hop : op.concerns f with
    | false =>
      rw [hs.view_operate_of_not hop]
      exact ⟨b, rfl⟩
    | true =>
      obtain ⟨a, hview⟩ := hs.view_operate hop
      rw [hview]
      obtain ⟨-, -, -, hstate⟩ | ⟨-, hsame, -⟩ := (s.view f).after_cases s.normalize hop a
      · -- the operation has used up the one answer
        have hne : ((s.view f).after s.normalize a op).state ≠ .uninitialized := by
          rw [hstate]
          exact a.state_ne
        exact ⟨a, (View.afterAll_of_ne s.normalize hops hne b a).1⟩
      · rw [← hsame b]
        exact ⟨b, rfl⟩

/-! ## Whole runs -/

/-- An adapter asks for an answer at the first operation that needs it, unless it has been stopped. -/
theorem Unused.answers_concat (hs : s.Unused) (f : Framework) (pre : List Operation)
    (op : Operation) :
    (answersTo f.logSystem (s.operateAll (pre ++ [op])).sink.calls).length =
      (answersTo f.logSystem (s.operateAll pre).sink.calls).length +
        if op.starts f ∧ ∀ o ∈ pre, o.starts f = false ∧ o.stops f = false then 1 else 0 := by
  have hused := hs.toHeard.state_operateAll f pre
  rw [and_iff_right (hs.state f)] at hused
  rw [operateAll_append]
  obtain ⟨hu, hstarts, a, hanswers, -⟩ | ⟨hnot, hanswers, -⟩ :=
    (hs.toHeard.operateAll pre).view_cases f op
  · rw [if_pos ⟨hstarts, hused.mp hu⟩]
    exact (congrArg List.length hanswers).trans List.length_append
  · have hneedless : ¬ (op.starts f = true ∧ ∀ o ∈ pre, o.starts f = false ∧ o.stops f = false) := by
      rintro ⟨hstarts, hpre⟩
      rw [hnot (hused.mpr hpre)] at hstarts
      cases hstarts
    rw [if_neg hneedless]
    exact congrArg List.length hanswers

/-- What the sink gets back was granted to adapters that were started and are stopped, or that it
stopped itself. -/
theorem Unused.shutdowns_operateAll (hs : s.Unused) (ops : List Operation) :
    (s.operateAll ops).sink.calls.countP SinkCall.isShutdown = all.countP fun f : Framework =>
      (answersTo f.logSystem (s.operateAll ops).sink.calls).contains ⟨true, true⟩ ||
        ((s.operateAll ops).state f = .stopped &&
          ops.inits.any fun pre => (s.operateAll pre).state f = .started) := by
  rw [(hs.toHeard.operateAll ops).shutdowns_eq]
  refine List.countP_congr fun f _ => ?_
  have hstarted := hs.started_iff f ops
  rw [Bool.and_eq_true, Bool.or_eq_true, Bool.and_eq_true, decide_eq_true_eq,
    List.contains_iff_mem, List.any_eq_true, List.any_eq_true]
  constructor
  · rintro ⟨⟨⟨granted, stopsCaller⟩, ha, hgranted⟩, hstopped⟩
    cases hgranted
    cases stopsCaller with
    | true => exact .inl ha
    | false =>
      obtain ⟨pre, hpre, hst⟩ := hstarted.mpr ha
      exact .inr ⟨hstopped, pre, (List.mem_inits pre ops).mpr hpre, decide_eq_true hst⟩
  · rintro (ha | ⟨hstopped, pre, hpre, hst⟩)
    · exact ⟨⟨_, ha, rfl⟩, hs.stopped_of_returned ha⟩
    · have ha := hstarted.mp ⟨pre, (List.mem_inits pre ops).mp hpre, of_decide_eq_true hst⟩
      exact ⟨⟨_, ha, rfl⟩, hstopped⟩

/-- A framework sees the same if only its own operations are left, on whatever sink, provided that
its adapter gets the same answer. -/
theorem view_alone (config : Config) (stack : List StackFrame) (sink : σ) (f : Framework)
    (ops : List Operation) {τ : Type} [Sink τ] (other : τ)
    (hanswers : answersTo f.logSystem ((ofConfig config stack other).watched.operateAll
        (Operation.alone f ops)).sink.calls =
      answersTo f.logSystem ((ofConfig config stack sink).watched.operateAll ops).sink.calls) :
    ((ofConfig config stack other).watched.operateAll (Operation.alone f ops)).view f =
      ((ofConfig config stack sink).watched.operateAll ops).view f := by
  have hmine := unused_watched config stack sink
  have hother := unused_watched config stack other
  have hrecords : (ofConfig config stack other).watched.normalize =
      (ofConfig config stack sink).watched.normalize := rfl
  obtain ⟨a, hview⟩ := hmine.toHeard.view_operateAll f ops
  obtain ⟨b, halone⟩ := hother.toHeard.view_operateAll f (Operation.alone f ops)
  rw [Operation.filter_alone, View.afterAll_alone, hother.view, hrecords] at halone
  rw [hmine.view] at hview
  rw [halone, hview]
  refine View.afterAll_eq_of_answers _ (fun o ho => (List.mem_filter.mp ho).2) ?_
  rw [← halone, ← hview]
  exact hanswers

/-- Whatever is asked of the adapters, the sink receives the records of the events that are
accepted, in order. An adapter registers when an operation needs it, at most once, unless it is
stopped before. The sink gets back what adapters were granted that were started and then stopped, or
that it stopped itself while they registered. A framework sees the same if all operations on the
other adapters are left out and its adapter gets the same answer. -/
theorem operateAll_reaches_sink (config : Config) (stack : List StackFrame) (sink : σ)
    (ops : List Operation) :
    let fresh := (ofConfig config stack sink).watched
    let s := fresh.operateAll ops
    s.mapSink WatchedSink.inner = (ofConfig config stack sink).operateAll ops ∧
    ((records s.sink.calls).map some =
      (fresh.accepted ops).map fun (now, e) => fresh.normalize now e) ∧
    (∀ (f : Framework) (pre : List Operation) (op : Operation),
      (answersTo f.logSystem (fresh.operateAll (pre ++ [op])).sink.calls).length =
        (answersTo f.logSystem (fresh.operateAll pre).sink.calls).length +
          if op.starts f ∧ ∀ o ∈ pre, o.starts f = false ∧ o.stops f = false then 1 else 0) ∧
    (∀ f : Framework, (answersTo f.logSystem s.sink.calls).length ≤ 1) ∧
    (s.sink.calls.countP SinkCall.isShutdown = all.countP fun f : Framework =>
      (answersTo f.logSystem s.sink.calls).contains ⟨true, true⟩ ||
        (s.state f = .stopped &&
          ops.inits.any fun pre => (fresh.operateAll pre).state f = .started)) ∧
    (∀ (f : Framework) {τ : Type} [Sink τ] (other : τ),
      let alone := (ofConfig config stack other).watched.operateAll (Operation.alone f ops)
      answersTo f.logSystem alone.sink.calls = answersTo f.logSystem s.sink.calls →
        alone.view f = s.view f) := by
  intro fresh s
  have hfresh : fresh.Unused := unused_watched config stack sink
  refine ⟨?_, hfresh.toHeard.records_operateAll ops, hfresh.answers_concat,
    (hfresh.toHeard.operateAll ops).answers_length_le, hfresh.shutdowns_operateAll ops, ?_⟩
  · exact (operateAll_mapSink WatchedSink.respects_inner fresh ops).symm
  · intro f τ _ other alone hanswers
    exact view_alone config stack sink f ops other hanswers

end AdapterSet

end LogOrigin
