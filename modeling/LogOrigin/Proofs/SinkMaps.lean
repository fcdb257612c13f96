import LogOrigin.AdapterSet.Operation
import LogOrigin.Sink.Watched

/-!
# Adapters do not look into their sink

What adapters do depends on the answers of their sink and on nothing else about it. So a map between
sinks that keeps the answers (`Sink.Respects`) carries every run of adapters over the one sink to
the same run over the other. Two such maps are of use: a watched sink may be taken for the sink
behind it, and its calls may be counted from any point.
-/

namespace LogOrigin

variable {σ τ : Type}

/-- An attempt as a map between sinks carries it over. -/
def Attempt.map (φ : σ → τ) (a : Attempt σ) : Attempt τ := ⟨φ a.sink, a.result, a.stopsCaller⟩

/-- Every call comes to the same before and after a map between sinks. -/
structure Sink.Respects [Sink σ] [Sink τ] (φ : σ → τ) : Prop where
  start : ∀ logSystem s, Sink.start logSystem (φ s) = (Sink.start logSystem s).map φ
  write : ∀ h r s, Sink.write h r (φ s) = φ (Sink.write h r s)
  shutdown : ∀ h s, Sink.shutdown h (φ s) = φ (Sink.shutdown h s)

/-- The adapters with their sink carried over by a map. -/
def AdapterSet.mapSink (s : AdapterSet σ) (φ : σ → τ) : AdapterSet τ where
  policies := s.policies
  bindings := s.bindings
  stack := s.stack
  sink := φ s.sink

/-! ## Watching -/

/-- The adapters with their sink watched from now on. -/
def AdapterSet.watched (s : AdapterSet σ) : AdapterSet (WatchedSink σ) :=
  s.mapSink fun sink => { inner := sink }

/-- A watched sink that had received other calls before. -/
def WatchedSink.behind (before : List SinkCall) (s : WatchedSink σ) : WatchedSink σ :=
  ⟨s.inner, before ++ s.calls⟩

/-- Adapters over a watched sink are watched from now on, but for what the sink has received. -/
theorem AdapterSet.behind_watched (s : AdapterSet (WatchedSink σ)) :
    ((s.mapSink WatchedSink.inner).watched).mapSink (WatchedSink.behind s.sink.calls) = s := by
  obtain ⟨policies, bindings, stack, inner, calls⟩ := s
  simp only [watched, mapSink, WatchedSink.behind, List.append_nil]

variable [Sink σ] [Sink τ] {φ : σ → τ}

/-- A watched sink behaves as the sink behind it. -/
theorem WatchedSink.respects_inner : Sink.Respects (inner : WatchedSink σ → σ) where
  start _ _ := rfl
  write _ _ _ := rfl
  shutdown _ _ := rfl

/-- What a watched sink has received before makes no difference. -/
theorem WatchedSink.respects_behind (before : List SinkCall) :
    Sink.Respects (behind before : WatchedSink σ → WatchedSink σ) where
  start logSystem s := by
    simp only [Sink.start, WatchedSink.start, Attempt.map, behind, note, List.append_assoc]
  write h r s := by simp only [Sink.write, behind, note, List.append_assoc]
  shutdown h s := by simp only [Sink.shutdown, behind, note, List.append_assoc]

/-! ## Bindings -/

namespace Binding

variable (hφ : Sink.Respects φ) (b : Binding) (sink : σ)

include hφ

theorem release_map : b.release (φ sink) = ((b.release sink).1, φ (b.release sink).2) := by
  cases hr : b.registration with
  | pending | refused => simp only [release, hr]
  | granted h => cases hb : b.released <;> simp [release, hr, hb, hφ.shutdown]

theorem stop_map : b.stop (φ sink) = ((b.stop sink).1, φ (b.stop sink).2) := by
  cases hb : b.stopped with
  | true => simp only [stop, hb, if_true]
  | false =>
    simp only [stop, hb, Bool.false_eq_true, if_false]
    exact release_map hφ { b with stopped := true } sink

theorem register_map : b.register (φ sink) = ((b.register sink).1, φ (b.register sink).2) := by
  cases hr : b.registration with
  | pending => simp only [register, hr, hφ.start, Attempt.map]
  | refused | granted h => simp only [register, hr]

theorem ensureStarted_map :
    b.ensureStarted (φ sink) =
      ((b.ensureStarted sink).1, φ (b.ensureStarted sink).2.1, (b.ensureStarted sink).2.2) := by
  cases hb : b.stopped with
  | true => simp only [ensureStarted, hb, if_true]
  | false =>
    simp only [ensureStarted, hb, register_map hφ, Bool.false_eq_true, if_false]
    cases hb' : (b.register sink).1.stopped with
    | true => simp only [release_map hφ, if_true]
    | false => simp only [Bool.false_eq_true, if_false]

theorem start_map : b.start (φ sink) = ((b.start sink).1, φ (b.start sink).2) := by
  simp only [start, ensureStarted_map hφ]

theorem write_map (r : LogRecord) :
    b.write r (φ sink) = ((b.write r sink).1, φ (b.write r sink).2) := by
  have hens := ensureStarted_map hφ b sink
  generalize hresult : b.ensureStarted sink = result at hens
  obtain ⟨b', sink', h?⟩ := result
  cases h? with
  | none => simp only [write, hens, hresult]
  | some h => simp only [write, hens, hresult, hφ.write]

end Binding

/-! ## Adapters -/

namespace AdapterSet

variable (hφ : Sink.Respects φ) (s : AdapterSet σ)

include hφ

theorem start_mapSink (f : Framework) : (s.mapSink φ).start f = (s.start f).mapSink φ := by
  have hstart := Binding.start_map hφ (s.bindings.get f) s.sink
  simp only [start, act, mapSink, hstart]

theorem stop_mapSink (f : Framework) : (s.mapSink φ).stop f = (s.stop f).mapSink φ := by
  have hstop := Binding.stop_map hφ (s.bindings.get f) s.sink
  simp only [stop, act, mapSink, hstop]

theorem append_mapSink (now : Instant) (e : CapturedEvent) :
    (s.mapSink φ).append now e = (s.append now e).mapSink φ := by
  cases hoff : e.isOff with
  | true => simp only [append, hoff, if_true]
  | false =>
    have hstart := start_mapSink hφ s e.framework
    have hstate : ((s.mapSink φ).start e.framework).state e.framework =
        (s.start e.framework).state e.framework := by
      rw [hstart]
      rfl
    have hnormalize : ((s.mapSink φ).start e.framework).normalize now e =
        (s.start e.framework).normalize now e := rfl
    simp only [append, hoff, hstate, hnormalize, Bool.false_eq_true, if_false]
    by_cases hst : (s.start e.framework).state e.framework = .started
    · rw [if_pos hst, if_pos hst]
      cases (s.start e.framework).normalize now e with
      | none => exact hstart
      | some r =>
        have hwrite := Binding.write_map hφ ((s.start e.framework).bindings.get e.framework)
          (s.start e.framework).sink r
        rw [hstart]
        simp only [act, mapSink, hwrite]
    · rw [if_neg hst, if_neg hst]
      exact hstart

theorem operate_mapSink (op : Operation) :
    (s.mapSink φ).operate op = (s.operate op).mapSink φ := by
  cases op with
  | start f => exact start_mapSink hφ s f
  | append now e | dispatch now e => exact append_mapSink hφ s now e
  | stop f => exact stop_mapSink hφ s f
  | startAll => simp only [operate, startAll, Framework.all, List.foldl, start_mapSink hφ]
  | stopAll => simp only [operate, stopAll, Framework.all, List.foldl, stop_mapSink hφ]
  | appendNothing f | normalize now e | isFiltered e | state f => rfl

theorem operateAll_mapSink (ops : List Operation) :
    (s.mapSink φ).operateAll ops = (s.operateAll ops).mapSink φ := by
  induction ops generalizing s with
  | nil => rfl
  | cons op ops ih =>
    show ((s.mapSink φ).operate op).operateAll ops = ((s.operate op).operateAll ops).mapSink φ
    rw [operate_mapSink hφ, ih]

end AdapterSet

end LogOrigin
