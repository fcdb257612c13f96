import LogOrigin.Proofs.JsonLines
import LogOrigin.Sink.Memory
import Mathlib.Data.List.Infix
import Mathlib.Data.List.Nodup

/-!
# Handles at the sinks

What becomes of records that callers write through any handles: through live ones, through ones that
were shut down before and through ones that no sink ever returned. A sink in memory keeps every
record. The sink of JSON lines counts registrations, up with every start and down with every
shutdown, so it takes records as long as starts outnumber shutdowns in the requests that came last
(`SinkRequest.Occupied`). As long as only live handles are shut down, that is as long as there are
live handles (`HeldSink.GivesBackLive`); a shutdown through any other handle takes a registration
away from one that is live.
-/

namespace LogOrigin

/-- A call as it is made to a sink. -/
inductive SinkRequest where
  | start (logSystem : String)
  | write (h : Handle) (r : LogRecord)
  | shutdown (h : Handle)

namespace SinkRequest

/-- The request is for a registration. -/
def isStart : SinkRequest → Bool
  | start _ => true
  | _ => false

/-- The request ends a registration. -/
def isShutdown : SinkRequest → Bool
  | shutdown _ => true
  | _ => false

/-- The record that the request brings. -/
def record? : SinkRequest → Option LogRecord
  | write _ r => some r
  | _ => none

/-- How many registrations are counted after the request. -/
def registrations (n : Nat) : SinkRequest → Nat
  | start _ => n + 1
  | write _ _ => n
  | shutdown _ => n - 1

/-- In the requests that came last, as many of them as it takes, starts outnumber shutdowns. -/
def Occupied (past : List SinkRequest) : Prop :=
  ∃ recent ∈ past.tails, recent.countP isShutdown < recent.countP isStart

instance (past : List SinkRequest) : Decidable (Occupied past) :=
  inferInstanceAs (Decidable (∃ recent ∈ past.tails, _))

/-- The records that are brought when starts outnumber shutdowns, after other requests. -/
def storedAfter (past : List SinkRequest) : List SinkRequest → List LogRecord
  | [] => []
  | q :: later =>
    (if Occupied past then q.record?.toList else []) ++ storedAfter (past ++ [q]) later

/-- The records that are brought when starts outnumber shutdowns. -/
def stored (requests : List SinkRequest) : List LogRecord := storedAfter [] requests

section Stored

variable (past requests more : List SinkRequest)

theorem storedAfter_append :
    storedAfter past (requests ++ more) =
      storedAfter past requests ++ storedAfter (past ++ requests) more := by
  induction requests generalizing past with
  | nil => rw [List.nil_append, List.append_nil, storedAfter, List.nil_append]
  | cons q requests ih =>
    rw [List.cons_append, storedAfter, storedAfter, ih, List.append_assoc, List.append_assoc,
      List.singleton_append]

theorem stored_concat (q : SinkRequest) :
    stored (requests ++ [q]) =
      stored requests ++ if Occupied requests then q.record?.toList else [] := by
  rw [stored, storedAfter_append, List.nil_append, storedAfter, storedAfter, List.append_nil, stored]

end Stored

/-! ## Counting registrations -/

variable {past : List SinkRequest} {n : Nat}

/-- The greatest number by which starts outnumber shutdowns in the requests that came last. -/
structure Excess (past : List SinkRequest) (n : Nat) : Prop where
  reached : ∃ recent, recent <:+ past ∧ recent.countP isStart = recent.countP isShutdown + n
  greatest : ∀ recent, recent <:+ past → recent.countP isStart ≤ recent.countP isShutdown + n

theorem excess_nil : Excess [] 0 where
  reached := ⟨[], List.suffix_refl _, rfl⟩
  greatest recent hrecent := by rw [List.suffix_nil.mp hrecent]; exact Nat.le_refl _

/-- A request more counts in all stretches of the requests that came last. -/
theorem countP_concat (recent : List SinkRequest) (q : SinkRequest) :
    (recent ++ [q]).countP isStart = recent.countP isStart + q.isStart.toNat ∧
      (recent ++ [q]).countP isShutdown = recent.countP isShutdown + q.isShutdown.toNat := by
  rw [List.countP_append, List.countP_append, List.countP_singleton, List.countP_singleton]
  cases q <;> exact ⟨rfl, rfl⟩

/-- A count that stops at zero is the greatest excess: where it would fall below, it is that of no
requests at all. -/
theorem Excess.concat (h : Excess past n) (q : SinkRequest) :
    Excess (past ++ [q]) (q.registrations n) where
  reached := by
    obtain ⟨recent, hrecent, hcount⟩ := h.reached
    have hconcat : recent ++ [q] <:+ past ++ [q] :=
      List.suffix_concat_iff.mpr (.inr ⟨recent, rfl, hrecent⟩)
    obtain ⟨hstarts, hshutdowns⟩ := countP_concat recent q
    cases q with
    | start logSystem =>
      refine ⟨_, hconcat, ?_⟩
      rw [hstarts, hshutdowns, hcount]
      rfl
    | write handle r =>
      refine ⟨_, hconcat, ?_⟩
      rw [hstarts, hshutdowns, hcount]
      rfl
    | shutdown handle =>
      by_cases hzero : n = 0
      · rw [hzero]
        exact ⟨[], List.nil_suffix, rfl⟩
      · refine ⟨_, hconcat, ?_⟩
        rw [hstarts, hshutdowns, hcount]
        simp only [isStart, isShutdown, registrations, Bool.toNat_true, Bool.toNat_false]
        omega
  greatest recent hrecent := by
    rcases List.suffix_concat_iff.mp hrecent with rfl | ⟨front, rfl, hfront⟩
    · exact Nat.zero_le _
    · have hbound := h.greatest front hfront
      obtain ⟨hstarts, hshutdowns⟩ := countP_concat front q
      rw [hstarts, hshutdowns]
      cases q <;>
        simp only [isStart, isShutdown, registrations, Bool.toNat_true, Bool.toNat_false] <;>
        omega

theorem Excess.occupied_iff (h : Excess past n) : Occupied past ↔ 0 < n := by
  constructor
  · rintro ⟨recent, hmem, hlt⟩
    have hbound := h.greatest recent ((List.mem_tails _ _).mp hmem)
    omega
  · intro hpos
    obtain ⟨recent, hrecent, hcount⟩ := h.reached
    exact ⟨recent, (List.mem_tails _ _).mpr hrecent, by omega⟩

end SinkRequest

open SinkRequest (Occupied Excess stored)

/-- A sink, and the handles that it returned and that were not shut down since. -/
structure HeldSink (σ : Type) where
  sink : σ
  live : List Handle := []

namespace HeldSink

section Requests

variable {σ : Type} [Sink σ]

/-- Makes a request. -/
def ask (s : HeldSink σ) : SinkRequest → HeldSink σ
  | .start logSystem =>
    let attempt := Sink.start logSystem s.sink
    ⟨attempt.sink, attempt.result.toOption.toList ++ s.live⟩
  | .write h r => { s with sink := Sink.write h r s.sink }
  | .shutdown h => ⟨Sink.shutdown h s.sink, s.live.filter (· != h)⟩

/-- Makes requests one after the other. -/
def askAll (s : HeldSink σ) (requests : List SinkRequest) : HeldSink σ := requests.foldl ask s

/-- Every handle that is shut down is live then. -/
def GivesBackLive (s : HeldSink σ) : List SinkRequest → Prop
  | [] => True
  | q :: later => (∀ h, q = .shutdown h → h ∈ s.live) ∧ (s.ask q).GivesBackLive later

end Requests

/-! ## The sink of JSON lines -/

section Lines

variable {file : OutputFile} {past : List SinkRequest} {s : HeldSink JsonLinesSink}

/-- A sink whose file was healthy when the requests started. -/
structure Serves (file : OutputFile) (past : List SinkRequest) (s : HeldSink JsonLinesSink) :
    Prop where
  sound : s.sink.Sound
  opens : s.sink.file.refusal = none
  excess : Excess past s.sink.registrations
  opened : s.sink.isOpen = true ↔ 0 < s.sink.registrations
  nextHandle : s.sink.nextHandle = past.countP (·.isStart) + 1
  issued : ∀ h ∈ s.live, h.id < s.sink.nextHandle
  distinct : s.live.Nodup
  /-- Shutdowns through handles that are not live can only make this fewer. -/
  held : s.sink.registrations ≤ s.live.length
  written : s.sink.written = (stored past).length
  given : s.sink.given = file.bytes.toList ++ (stored past).flatMap LogRecord.line

theorem serves_ofFile (path : String) (hopens : file.refusal = none) (htakes : file.Takes) :
    Serves file [] ⟨.ofFile path file, []⟩ where
  sound := htakes
  opens := hopens
  excess := SinkRequest.excess_nil
  opened := iff_of_false Bool.false_ne_true (Nat.lt_irrefl 0)
  nextHandle := rfl
  issued := nofun
  distinct := List.nodup_nil
  held := Nat.le_refl _
  written := rfl
  given := (List.append_nil _).symm

/-- Nothing is stored by a request that brings no record. -/
theorem stored_of_silent (past : List SinkRequest) (q : SinkRequest) (h : q.record? = none) :
    stored (past ++ [q]) = stored past := by
  rw [SinkRequest.stored_concat, h, Option.toList_none, ite_self, List.append_nil]

/-- A start is always granted, with a handle that is not live. -/
theorem Serves.start (h : Serves file past s) (logSystem : String) :
    (Sink.start logSystem s.sink).result = .ok ⟨s.sink.nextHandle⟩ ∧
      Serves file (past ++ [.start logSystem]) (s.ask (.start logSystem)) ∧
      (s.ask (.start logSystem)).live = ⟨s.sink.nextHandle⟩ :: s.live ∧
      (s.ask (.start logSystem)).sink.registrations = s.sink.registrations + 1 := by
  have hopens := h.opens
  obtain ⟨hresult, hregisters⟩ | ⟨cause, -, hrefusal, -⟩ :=
    JsonLinesSink.start_cases logSystem s.sink
  · have hlive : (s.ask (.start logSystem)).live = ⟨s.sink.nextHandle⟩ :: s.live := by
      show (JsonLinesSink.start logSystem s.sink).result.toOption.toList ++ s.live = _
      rw [hresult]
      rfl
    have hfresh : (⟨s.sink.nextHandle⟩ : Handle) ∉ s.live :=
      fun hmem => Nat.lt_irrefl _ (h.issued _ hmem)
    obtain ⟨hsound, hgiven⟩ := hregisters.sound h.sound
    have hstored := stored_of_silent past (.start logSystem) rfl
    refine ⟨hresult, ?_, hlive, hregisters.registrations⟩
    refine
      { sound := hsound
        opens := (JsonLinesSink.refusal_start logSystem s.sink).trans hopens
        excess := ?excess
        opened := ?opened
        nextHandle := ?nextHandle
        issued := ?issued
        distinct := ?distinct
        held := ?held
        written := ?written
        given := ?given }
    case excess =>
      have hexcess := h.excess.concat (.start logSystem)
      rwa [SinkRequest.registrations, ← hregisters.registrations] at hexcess
    case opened =>
      exact iff_of_true hregisters.isOpen
        (hregisters.registrations ▸ Nat.succ_pos s.sink.registrations)
    case nextHandle =>
      rw [List.countP_append, List.countP_singleton]
      exact hregisters.nextHandle.trans (congrArg (· + 1) h.nextHandle)
    case issued =>
      intro handle hmem
      rw [hlive, List.mem_cons] at hmem
      show handle.id < (JsonLinesSink.start logSystem s.sink).sink.nextHandle
      rw [hregisters.nextHandle]
      rcases hmem with rfl | hmem
      · exact Nat.lt_succ_self _
      · exact Nat.lt_succ_of_lt (h.issued handle hmem)
    case distinct =>
      rw [hlive]
      exact List.nodup_cons.mpr ⟨hfresh, h.distinct⟩
    case held =>
      rw [hlive, List.length_cons]
      exact hregisters.registrations ▸ Nat.succ_le_succ h.held
    case written => rw [hstored, ← h.written]; exact hregisters.written
    case given => rw [hstored, ← h.given]; exact hgiven
  · rw [hopens] at hrefusal
    cases hrefusal

/-- A record is stored if the file is open, through whatever handle it comes. -/
theorem Serves.write (h : Serves file past s) (handle : Handle) (r : LogRecord) :
    Serves file (past ++ [.write handle r]) (s.ask (.write handle r)) ∧
      (s.ask (.write handle r)).sink.registrations = s.sink.registrations := by
  obtain ⟨hisOpen, hregistrations, hnext⟩ := JsonLinesSink.write_frame r s.sink
  have hexcess := h.excess.concat (.write handle r)
  have hstored := SinkRequest.stored_concat past (.write handle r)
  -- only here it matters whether the file is open
  obtain ⟨hsound, hwritten, hgiven⟩ : (s.sink.write r).Sound ∧
      (s.sink.write r).written = (stored (past ++ [.write handle r])).length ∧
      (s.sink.write r).given = file.bytes.toList ++
        (stored (past ++ [.write handle r])).flatMap LogRecord.line := by
    rw [hstored]
    by_cases hoccupied : Occupied past
    · obtain ⟨hgiven, hwritten, hsound⟩ := JsonLinesSink.write_line r h.sound
        (h.opened.mpr (h.excess.occupied_iff.mp hoccupied))
      rw [if_pos hoccupied, hgiven, hwritten, h.given, h.written, List.length_append,
        List.flatMap_append, List.append_assoc]
      exact ⟨hsound, rfl, by simp [SinkRequest.record?]⟩
    · have hclosed : s.sink.isOpen = false := Bool.eq_false_iff.mpr
        fun hopen => hoccupied (h.excess.occupied_iff.mpr (h.opened.mp hopen))
      rw [if_neg hoccupied, List.append_nil, JsonLinesSink.write_of_closed r hclosed]
      exact ⟨h.sound, h.written, h.given⟩
  refine ⟨?_, hregistrations⟩
  exact
    { sound := hsound
      opens := (JsonLinesSink.refusal_write r h.sound).trans h.opens
      excess := hregistrations ▸ hexcess
      opened := by
        show (s.sink.write r).isOpen = true ↔ 0 < (s.sink.write r).registrations
        rw [hisOpen, hregistrations]
        exact h.opened
      nextHandle := by
        rw [List.countP_append, List.countP_singleton]
        exact hnext.trans h.nextHandle
      issued := fun other hmem => hnext ▸ h.issued other hmem
      distinct := h.distinct
      held := hregistrations ▸ h.held
      written := hwritten
      given := hgiven }

/-- A shutdown takes a registration away, through whatever handle it comes. -/
theorem Serves.shutdown (h : Serves file past s) (handle : Handle) :
    Serves file (past ++ [.shutdown handle]) (s.ask (.shutdown handle)) ∧
      (s.ask (.shutdown handle)).sink.registrations = s.sink.registrations - 1 := by
  obtain ⟨hregistrations, hnext, hwritten, hisOpen⟩ := JsonLinesSink.shutdown_frame s.sink
  obtain ⟨hgiven, hsound⟩ := JsonLinesSink.shutdown_given h.sound
  have hexcess := h.excess.concat (.shutdown handle)
  have hstored := stored_of_silent past (.shutdown handle) rfl
  refine ⟨?_, hregistrations⟩
  refine
    { sound := hsound
      opens := (JsonLinesSink.refusal_shutdown h.sound).trans h.opens
      excess := hregistrations ▸ hexcess
      opened := ?opened
      nextHandle := ?nextHandle
      issued := fun other hmem => hnext ▸ h.issued other (List.mem_of_mem_filter hmem)
      distinct := h.distinct.filter _
      held := ?held
      written := ?written
      given := ?given }
  case opened =>
    show s.sink.shutdown.isOpen = true ↔ 0 < s.sink.shutdown.registrations
    rw [hisOpen, hregistrations, h.opened]
    omega
  case nextHandle =>
    rw [List.countP_append, List.countP_singleton]
    exact hnext.trans h.nextHandle
  case held =>
    have hheld := h.held
    show s.sink.shutdown.registrations ≤ (s.live.filter (· != handle)).length
    rw [hregistrations, ← h.distinct.erase_eq_filter, List.length_erase]
    split <;> omega
  case written => rw [hstored, ← h.written]; exact hwritten
  case given => rw [hstored, ← h.given]; exact hgiven

theorem Serves.ask (h : Serves file past s) (q : SinkRequest) :
    Serves file (past ++ [q]) (s.ask q) := by
  cases q with
  | start logSystem => exact (h.start logSystem).2.1
  | write handle r => exact (h.write handle r).1
  | shutdown handle => exact (h.shutdown handle).1

theorem Serves.askAll (h : Serves file past s) (requests : List SinkRequest) :
    Serves file (past ++ requests) (s.askAll requests) := by
  induction requests generalizing past s with
  | nil => rwa [List.append_nil]
  | cons q requests ih =>
    have hrest := ih (h.ask q)
    rwa [List.append_assoc, List.singleton_append] at hrest

/-- The registrations that are counted stay those of the live handles as long as only live handles
are shut down. -/
theorem Serves.balanced_ask (h : Serves file past s) {q : SinkRequest}
    (hlive : ∀ handle, q = .shutdown handle → handle ∈ s.live)
    (hbalanced : s.sink.registrations = s.live.length) :
    (s.ask q).sink.registrations = (s.ask q).live.length := by
  cases q with
  | start logSystem =>
    obtain ⟨-, -, hlive, hregistrations⟩ := h.start logSystem
    rw [hlive, hregistrations, List.length_cons, hbalanced]
  | write handle r => exact (h.write handle r).2.trans hbalanced
  | shutdown handle =>
    rw [(h.shutdown handle).2, hbalanced]
    show _ = (s.live.filter (· != handle)).length
    rw [← h.distinct.erase_eq_filter, List.length_erase_of_mem (hlive handle rfl)]

theorem Serves.balanced_askAll (h : Serves file past s) {requests : List SinkRequest}
    (hgives : s.GivesBackLive requests) (hbalanced : s.sink.registrations = s.live.length) :
    (s.askAll requests).sink.registrations = (s.askAll requests).live.length := by
  induction requests generalizing past s with
  | nil => exact hbalanced
  | cons q requests ih => exact ih (h.ask q) hgives.2 (h.balanced_ask hgives.1 hbalanced)

end Lines

/-! ## The sink in memory -/

/-- A sink in memory that never refused a registration. -/
structure Collects (past : List SinkRequest) (s : HeldSink MemorySink) : Prop where
  grants : ∀ n, s.sink.refuses n = false
  attempts : s.sink.attempts = past.countP (·.isStart)
  records : s.sink.records.toList = past.filterMap (·.record?)

section Memory

variable {past : List SinkRequest} {s : HeldSink MemorySink}

theorem Collects.start (h : Collects past s) (logSystem : String) :
    (Sink.start logSystem s.sink).result = .ok ⟨past.countP (·.isStart) + 1⟩ ∧
      (Sink.start logSystem s.sink).sink = { s.sink with attempts := s.sink.attempts + 1 } := by
  have hgrants := h.grants (s.sink.attempts + 1)
  show (MemorySink.start logSystem s.sink).result = _ ∧
    (MemorySink.start logSystem s.sink).sink = _
  simp only [MemorySink.start, hgrants, Bool.false_eq_true, if_false, ← h.attempts, and_self]

theorem collects_new : Collects [] ⟨{}, []⟩ := ⟨fun _ => rfl, rfl, rfl⟩

/-- Every record is kept, through whatever handle it comes. -/
theorem Collects.ask (h : Collects past s) (q : SinkRequest) :
    Collects (past ++ [q]) (s.ask q) := by
  cases q with
  | start logSystem =>
    have hsink : (s.ask (.start logSystem)).sink =
        { s.sink with attempts := s.sink.attempts + 1 } := (h.start logSystem).2
    refine ⟨?_, ?_, ?_⟩
    · rw [hsink]
      exact h.grants
    · rw [hsink, List.countP_append, ← h.attempts]
      rfl
    · rw [hsink, List.filterMap_append, ← h.records]
      exact (List.append_nil _).symm
  | write handle r =>
    refine ⟨h.grants, ?_, ?_⟩
    · rw [List.countP_append, ← h.attempts]
      rfl
    · show (s.sink.records.push r).toList = _
      rw [List.filterMap_append, ← h.records, Array.toList_push]
      rfl
  | shutdown handle =>
    refine ⟨h.grants, ?_, ?_⟩
    · rw [List.countP_append, ← h.attempts]
      rfl
    · rw [List.filterMap_append, ← h.records]
      exact (List.append_nil _).symm

theorem Collects.askAll (h : Collects past s) (requests : List SinkRequest) :
    Collects (past ++ requests) (s.askAll requests) := by
  induction requests generalizing past s with
  | nil => rwa [List.append_nil]
  | cons q requests ih =>
    have hrest := ih (h.ask q)
    rwa [List.append_assoc, List.singleton_append] at hrest

end Memory

/-- Starts are granted, each with a handle of its own, but no sink looks at the handles of other
requests. The sink of JSON lines, over a file that opens and takes everything, counts and stores a
record if starts outnumber shutdowns in the requests that came last, and its file is open as long as
they do. Then there is a live handle, if perhaps not that of the record; the other way round this
holds as long as only live handles are shut down. A sink in memory keeps every record. -/
theorem stores_through_any_handle (path : String) {file : OutputFile}
    (hopens : file.refusal = none) (htakes : file.Takes) (requests : List SinkRequest) :
    let unused : HeldSink JsonLinesSink := ⟨.ofFile path file, []⟩
    let lines := unused.askAll requests
    let memory := askAll ⟨({} : MemorySink), []⟩ requests
    (∀ logSystem,
      (Sink.start logSystem lines.sink).result = .ok ⟨requests.countP (·.isStart) + 1⟩ ∧
      (Sink.start logSystem memory.sink).result = .ok ⟨requests.countP (·.isStart) + 1⟩) ∧
    lines.sink.written = (stored requests).length ∧
    lines.sink.finalFile.bytes.toList =
      file.bytes.toList ++ (stored requests).flatMap LogRecord.line ∧
    (lines.sink.isOpen = true ↔ Occupied requests) ∧
    (Occupied requests → lines.live ≠ []) ∧
    (unused.GivesBackLive requests → lines.live ≠ [] → Occupied requests) ∧
    memory.sink.records.toList = requests.filterMap (·.record?) := by
  intro unused lines memory
  have hunused : Serves file [] unused := serves_ofFile path hopens htakes
  have hlines : Serves file requests lines := hunused.askAll requests
  have hmemory : Collects requests memory :=
    collects_new.askAll requests
  have hoccupied := hlines.excess.occupied_iff
  refine ⟨fun logSystem => ⟨?_, (hmemory.start logSystem).1⟩, hlines.written, ?_,
    hlines.opened.trans hoccupied.symm, fun h => ?_, fun hgives hlive => ?_, hmemory.records⟩
  · rw [(hlines.start logSystem).1, hlines.nextHandle]
  · rw [JsonLinesSink.bytes_finalFile hlines.sound, hlines.given]
  · exact List.length_pos_iff.mp (Nat.lt_of_lt_of_le (hoccupied.mp h) hlines.held)
  · have hbalanced := hunused.balanced_askAll hgives rfl
    rw [hoccupied, hbalanced]
    exact List.length_pos_iff.mpr hlive

/-- A record without a throwable, a thread or properties. -/
def plainRecord : LogRecord where
  timestamp := ⟨⟨2026, 3, 2⟩, ⟨9, 15, 0, 0⟩⟩
  severity := .information
  sourceLocation := .unknown
  logSystem := "Test"
  loggerName := "app"
  message := "late"
  throwable := none
  threadInfo := none
  properties := .empty

/-- Two log systems share a sink, and the last one writes once more after its shutdown. -/
def sharedBriefly : List SinkRequest :=
  [.start "A", .start "B", .shutdown ⟨1⟩, .write ⟨2⟩ plainRecord, .shutdown ⟨2⟩,
    .write ⟨2⟩ plainRecord]

/-- The record that comes too late is dropped from a file and kept in memory. -/
theorem stores_through_any_handle_sharedBriefly :
    (askAll ⟨JsonLinesSink.ofFile "events.jsonl" {}, []⟩ sharedBriefly).sink.written = 1 ∧
      (askAll ⟨({} : MemorySink), []⟩ sharedBriefly).sink.records.toList =
        [plainRecord, plainRecord] := by
  have htakes : OutputFile.Takes {} := fun _ => rfl
  obtain ⟨-, hwritten, -, -, -, -, hrecords⟩ :=
    stores_through_any_handle "events.jsonl" rfl htakes sharedBriefly
  have hstored : stored sharedBriefly = [plainRecord] := rfl
  rw [hwritten, hrecords, hstored]
  exact ⟨rfl, rfl⟩

/-- A record is kept in memory though its handle was shut down. A handle that is shut down twice
closes the file while another one is live, and the record of that one is dropped; a record through
a handle that was never returned is stored as long as the file is open. -/
theorem mishandled_records :
    let late := askAll ⟨({} : MemorySink), []⟩
      [.start "A", .shutdown ⟨1⟩, .write ⟨1⟩ plainRecord]
    let twice := askAll ⟨JsonLinesSink.ofFile "events.jsonl" {}, []⟩
      [.start "A", .start "B", .shutdown ⟨1⟩, .shutdown ⟨1⟩]
    let once := askAll ⟨JsonLinesSink.ofFile "events.jsonl" {}, []⟩ [.start "A"]
    (late.live = [] ∧ late.sink.records = #[plainRecord]) ∧
    (twice.live = [⟨2⟩] ∧ twice.sink.isOpen = false ∧
      (twice.ask (.write ⟨2⟩ plainRecord)).sink.written = 0) ∧
    once.live = [⟨1⟩] ∧ (once.ask (.write ⟨7⟩ plainRecord)).sink.written = 1 := by
  refine ⟨⟨rfl, rfl⟩, ⟨rfl, rfl, rfl⟩, rfl, ?_⟩
  decide +kernel

end HeldSink

end LogOrigin
