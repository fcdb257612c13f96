import LogOrigin.Proofs.RecordText

/-!
# Writing to a file that may fail

A file may take only some of the bytes that are handed to it. A buffered writer keeps what the file
did not take, so its file and its buffer together still hold all that it was given
(`BufferedFile.given`), and a piece that cannot be written is only cut short. Bytes are lost in one
place alone: when the file is closed, what is still pending after two attempts is thrown away
(`JsonLinesSink.unsaved`).
-/

namespace LogOrigin

open Json.Byte (lineFeed)

namespace OutputFile

/-- A file has lost nothing: if it was there it still is, and it begins with what was in it. -/
structure Grows (f f' : OutputFile) : Prop where
  there : f.Exists → f'.Exists
  begins : f.bytes.toList <+: f'.bytes.toList

theorem Grows.refl (f : OutputFile) : f.Grows f := ⟨id, List.prefix_refl _⟩

theorem Grows.trans {f f' f'' : OutputFile} (h : f.Grows f') (h' : f'.Grows f'') : f.Grows f'' :=
  ⟨h'.there ∘ h.there, h.begins.trans h'.begins⟩

variable (f : OutputFile) (new : Array UInt8)

/-- What a file takes of a hand-over and what it does not take make up the hand-over. -/
theorem bytes_append :
    (f.append new).1.bytes ++ (f.append new).2.getD #[] = f.bytes ++ new := by
  unfold append
  split
  · exact Array.append_empty
  · rename_i n hlimit
    apply Array.toList_inj.mp
    have hall : new.toList.take (max n new.size) = new.toList :=
      List.take_of_length_le (Nat.le_max_right ..)
    simp [bytes, hall]

theorem grows_append : f.Grows (f.append new).1 := by
  unfold append
  split <;> exact ⟨fun _ => rfl, ⟨_, (Array.toList_append ..).symm⟩⟩

end OutputFile

namespace BufferedFile

variable {w : BufferedFile}

/-- What became of bytes for a writer: it got the beginning of them, and all of them if nothing
failed. -/
structure Gets (w : BufferedFile) (bytes taken : List UInt8) (result : BufferedFile × Bool) :
    Prop where
  begins : taken <+: bytes
  given : result.1.given = w.given ++ taken
  all : result.2 = true → taken = bytes
  grows : w.file.Grows result.1.file

/-- A flush moves bytes, and leaves nothing pending if nothing failed. -/
theorem gets_flush (w : BufferedFile) :
    w.Gets [] [] w.flush ∧ (w.flush.2 = true → w.flush.1.pending = #[]) := by
  unfold flush
  split
  · rename_i hempty
    exact ⟨⟨List.prefix_refl _, (List.append_nil _).symm, fun _ => rfl, .refl _⟩,
      fun _ => Array.isEmpty_iff.mp hempty⟩
  · have hbytes := w.file.bytes_append w.pending
    have hgrows := w.file.grows_append w.pending
    generalize w.file.append w.pending = answer at hbytes hgrows
    obtain ⟨file, rest⟩ := answer
    have hgiven : file.bytes.toList ++ (rest.getD #[]).toList = w.given ++ [] := by
      rw [List.append_nil, given, ← Array.toList_append, ← Array.toList_append, hbytes]
    cases rest with
    | none => exact ⟨⟨List.prefix_refl _, hgiven, fun _ => rfl, hgrows⟩, fun _ => rfl⟩
    | some rest => exact ⟨⟨List.prefix_refl _, hgiven, fun h => (by cases h), hgrows⟩,
        fun h => (by cases h)⟩

/-- A piece goes into the buffer whole, or directly to the file when nothing is pending. -/
theorem gets_place (piece : List UInt8)
    (hroom : w.pending.size + piece.length ≤ capacity ∨ w.pending = #[]) :
    ∃ taken, w.Gets piece taken (w.place piece) ∧
      (piece.length < capacity → (w.place piece).2 = true) := by
  unfold place
  split
  · rename_i hlarge
    have hpending : w.pending = #[] := by
      rcases hroom with hroom | hempty
      · exact Array.eq_empty_of_size_eq_zero (by omega)
      · exact hempty
    have hbytes := w.file.bytes_append piece.toArray
    have hgrows := w.file.grows_append piece.toArray
    generalize w.file.append piece.toArray = answer at hbytes hgrows
    obtain ⟨file, rest⟩ := answer
    obtain ⟨taken, htaken⟩ := hgrows.begins
    have hpiece : taken ++ (rest.getD #[]).toList = piece := by
      have hlist := congrArg Array.toList hbytes
      rw [Array.toList_append, Array.toList_append, ← htaken, List.append_assoc] at hlist
      exact List.append_cancel_left hlist
    refine ⟨taken, ⟨⟨_, hpiece⟩, ?_, fun h => ?_, hgrows⟩, fun h => absurd h (by omega)⟩
    · simp only [given, hpending, ← htaken, List.append_nil]
    · rw [Option.isNone_iff_eq_none.mp h] at hpiece
      exact (List.append_nil _).symm.trans hpiece
  · exact ⟨piece, ⟨List.prefix_refl _, by simp [given], fun _ => rfl, .refl _⟩,
      fun _ => rfl⟩

/-- Of a piece that is smaller than the buffer, nothing is taken if something fails. -/
theorem gets_write (w : BufferedFile) (piece : List UInt8) :
    ∃ taken, w.Gets piece taken (w.write piece) ∧
      (piece.length < capacity → (w.write piece).2 = false → taken = []) := by
  unfold write
  split
  · rename_i hroom
    obtain ⟨taken, hgets, hsmall⟩ := gets_place piece (.inl hroom)
    refine ⟨taken, hgets, fun h hfailed => ?_⟩
    rw [hsmall h] at hfailed
    cases hfailed
  · obtain ⟨hflush, hpending⟩ := gets_flush w
    split
    · rename_i w' heq
      rw [heq] at hflush hpending
      obtain ⟨taken, hgets, hsmall⟩ := gets_place piece (.inr (hpending rfl))
      refine ⟨taken, ⟨hgets.begins, ?_, hgets.all, hflush.grows.trans hgets.grows⟩,
        fun h hfailed => ?_⟩
      · rw [hgets.given, hflush.given, List.append_nil]
      · rw [hsmall h] at hfailed
        cases hfailed
    · rename_i w' heq
      rw [heq] at hflush
      exact ⟨[], ⟨List.nil_prefix, hflush.given, fun h => (by cases h), hflush.grows⟩,
        fun _ _ => rfl⟩

/-- Pieces are taken up to the one that fails. -/
theorem gets_writeAll (w : BufferedFile) (pieces : List (List UInt8)) :
    ∃ taken, w.Gets pieces.flatten taken (w.writeAll pieces) := by
  induction pieces generalizing w with
  | nil => exact ⟨[], ⟨List.prefix_refl _, (List.append_nil _).symm, fun _ => rfl,
      .refl _⟩⟩
  | cons piece pieces ih =>
    obtain ⟨first, hfirst, -⟩ := gets_write w piece
    rw [writeAll]
    split
    · rename_i w' heq
      rw [heq] at hfirst
      obtain ⟨rest, hrest⟩ := ih w'
      refine ⟨first ++ rest, ?_, ?_, fun h => ?_, hfirst.grows.trans hrest.grows⟩
      · rw [hfirst.all rfl, List.flatten_cons]
        exact (List.prefix_append_right_inj _).mpr hrest.begins
      · rw [hrest.given, hfirst.given, List.append_assoc]
      · rw [hfirst.all rfl, hrest.all h, List.flatten_cons]
    · rename_i w' heq
      rw [heq] at hfirst
      refine ⟨first, hfirst.begins.trans ?_, hfirst.given, fun h => (by cases h), hfirst.grows⟩
      exact ⟨_, List.flatten_cons.symm⟩

theorem writeAll_append (w : BufferedFile) (front back : List (List UInt8)) :
    w.writeAll (front ++ back) =
      if (w.writeAll front).2 then (w.writeAll front).1.writeAll back else w.writeAll front := by
  induction front generalizing w with
  | nil => rfl
  | cons piece front ih =>
    rw [List.cons_append, writeAll, writeAll]
    split
    · exact ih _
    · rfl

/-- Of pieces of which the last one is smaller than the buffer, all are taken or nothing of the
last one is. -/
theorem gets_writeAll_concat (w : BufferedFile) (front : List (List UInt8)) {last : List UInt8}
    (h : last.length < capacity) :
    ∃ taken, w.Gets (front ++ [last]).flatten taken (w.writeAll (front ++ [last])) ∧
      ((w.writeAll (front ++ [last])).2 = false → taken <+: front.flatten) := by
  obtain ⟨first, hfirst⟩ := gets_writeAll w front
  have hflatten : (front ++ [last]).flatten = front.flatten ++ last := by
    rw [List.flatten_append, List.flatten_singleton]
  rw [writeAll_append, hflatten]
  by_cases hdone : (w.writeAll front).2 = true
  · obtain ⟨rest, hrest, hsmall⟩ := gets_write (w.writeAll front).1 last
    have hlast : (w.writeAll front).1.writeAll [last] = (w.writeAll front).1.write last := by
      rw [writeAll]
      split
      · rename_i heq
        rw [heq]
        rfl
      · rename_i heq
        rw [heq]
    rw [if_pos hdone, hlast]
    have hall := hfirst.all hdone
    refine ⟨first ++ rest, ⟨?_, ?_, fun hrest' => ?_, hfirst.grows.trans hrest.grows⟩,
      fun hfailed => ?_⟩
    · rw [hall]
      exact (List.prefix_append_right_inj _).mpr hrest.begins
    · rw [hrest.given, hfirst.given, List.append_assoc]
    · rw [hall, hrest.all hrest']
    · have htaken : first ++ rest = front.flatten := by
        rw [hall, hsmall h hfailed, List.append_nil]
      exact htaken ▸ List.prefix_refl _
  · rw [if_neg hdone]
    exact ⟨first, ⟨hfirst.begins.trans (List.prefix_append ..), hfirst.given,
      fun h => absurd h hdone, hfirst.grows⟩, fun _ => hfirst.begins⟩

end BufferedFile

/-- What a writer may take of the line of a record: all of it, or some of its text. -/
def LogRecord.Leaves (r : LogRecord) (taken : List UInt8) : Prop :=
  taken = r.line ∨ taken <+: r.toJson.render

/-- Of lines that are taken whole or cut short, the whole ones have the line feeds. -/
theorem LogRecord.count_flatten_of_leaves {records : List LogRecord} {taken : List (List UInt8)}
    (h : List.Forall₂ Leaves records taken) :
    taken.flatten.count lineFeed = taken.countP (lineFeed ∈ ·) := by
  induction h with
  | nil => rfl
  | @cons r first records taken hr _ ih =>
    have hfeed := r.lineFeed_not_mem_render
    rw [List.flatten_cons, List.count_append, ih, List.countP_cons]
    rcases hr with rfl | hfront
    · have hmem : lineFeed ∈ r.line := by rw [LogRecord.line]; simp
      rw [if_pos (decide_eq_true hmem), LogRecord.line, List.count_append,
        List.count_eq_zero_of_not_mem hfeed]
      exact Nat.add_comm ..
    · have hnone : lineFeed ∉ first := fun hmem => hfeed (hfront.mem hmem)
      rw [if_neg (by simpa using hnone), List.count_eq_zero_of_not_mem hnone]
      exact Nat.add_comm ..

namespace JsonLinesSink

variable {s s' : JsonLinesSink}

/-- The bytes that closing the file throws away: what two attempts do not hand over. -/
def unsaved (s : JsonLinesSink) : List UInt8 :=
  match s.state with
  | .closed _ => []
  | .opened writer => writer.flush.1.flush.1.pending.toList

/-- The bytes that are thrown away between two states of the sink, of which the second one may have
the file closed. -/
def lost (s s' : JsonLinesSink) : List UInt8 := if s'.isOpen then [] else s.unsaved

/-- Nothing is thrown away where the file stays open. -/
theorem lost_of_isOpen (h : s.isOpen = true → s'.isOpen = true) : s.lost s' = [] := by
  unfold lost
  split
  · rfl
  · rename_i hclosed
    cases hs : s.state with
    | closed file => simp only [unsaved, hs]
    | opened writer => exact absurd (h (by simp only [isOpen, hs])) hclosed

theorem grows_start (logSystem : String) (s : JsonLinesSink) :
    s.file.Grows (start logSystem s).sink.file := by
  have hbytes := (bytes_start logSystem s).2
  exact ⟨fun h => exists_start logSystem (.inl h), hbytes ▸ List.prefix_refl _⟩

/-- In whatever pieces its text comes, a record counts if and only if its line is taken whole. -/
theorem writePieces_leaves {r : LogRecord} (c : r.Chopping) (hopen : s.isOpen = true) :
    ∃ taken, r.Leaves taken ∧ (s.writePieces c.pieces).given = s.given ++ taken ∧
      s.file.Grows (s.writePieces c.pieces).file ∧
      (s.writePieces c.pieces).written = s.written + [taken].countP (lineFeed ∈ ·) := by
  cases hs : s.state with
  | closed file => simp [isOpen, hs] at hopen
  | opened writer =>
    have hsmall : [lineFeed].length < BufferedFile.capacity := by decide
    obtain ⟨taken, hgets, hcut⟩ := writer.gets_writeAll_concat c.pieces hsmall
    simp only [given, file, writePieces, hs]
    cases hdone : (writer.writeAll (c.pieces ++ [[lineFeed]])).2 with
    | true =>
      have hline : taken = r.line := (hgets.all hdone).trans c.flatten_line
      have hmem : lineFeed ∈ taken := by rw [hline, LogRecord.line]; simp
      refine ⟨taken, .inl hline, hgets.given, hgets.grows, ?_⟩
      simp only [if_true, List.countP_singleton, decide_eq_true hmem]
    | false =>
      have hfront : taken <+: r.toJson.render := c.flatten_pieces ▸ hcut hdone
      have hmem : lineFeed ∉ taken := fun h => r.lineFeed_not_mem_render (hfront.mem h)
      refine ⟨taken, .inr hfront, hgets.given, hgets.grows, ?_⟩
      simp only [Bool.false_eq_true, if_false, List.countP_singleton, decide_eq_false hmem]
      rfl

theorem write_leaves (r : LogRecord) (hopen : s.isOpen = true) :
    ∃ taken, r.Leaves taken ∧ (s.write r).given = s.given ++ taken ∧
      s.file.Grows (s.write r).file ∧
      (s.write r).written = s.written + [taken].countP (lineFeed ∈ ·) :=
  writePieces_leaves r.chopping hopen

/-- What closing the file throws away is the end of what the sink was given. -/
theorem given_close (s : JsonLinesSink) :
    s.close.given ++ s.unsaved = s.given ∧
      s.file.Grows s.close.file := by
  cases hs : s.state with
  | closed f =>
    simp only [close, hs, given, unsaved, file, List.append_nil]
    exact ⟨trivial, .refl _⟩
  | opened writer =>
    obtain ⟨hfirst, -⟩ := BufferedFile.gets_flush writer
    obtain ⟨hsecond, -⟩ := BufferedFile.gets_flush writer.flush.1
    simp only [close, hs, given, unsaved, file]
    exact ⟨hsecond.given.trans (by rw [hfirst.given, List.append_nil, List.append_nil]),
      hfirst.grows.trans hsecond.grows⟩

/-- The end of a registration throws away what closing the file does, if it closes the file. -/
theorem given_shutdown (s : JsonLinesSink) :
    s.shutdown.given ++ s.lost s.shutdown = s.given ∧
      s.file.Grows s.shutdown.file := by
  by_cases hlast : s.registrations - 1 = 0
  · obtain ⟨hgiven, hgrows⟩ := given_close { s with registrations := s.registrations - 1 }
    have hclosed : s.shutdown.isOpen = false := by
      rw [← Bool.not_eq_true, (shutdown_frame s).2.2.2, hlast]
      exact fun h => Nat.lt_irrefl 0 h.2
    have hclose : s.shutdown = close { s with registrations := s.registrations - 1 } := by
      simp only [shutdown, hlast, if_true]
    rw [lost, hclosed, if_neg Bool.false_ne_true, hclose]
    exact ⟨hgiven, hgrows⟩
  · have hsame : s.shutdown = { s with registrations := s.registrations - 1 } := by
      simp only [shutdown, hlast, if_false]
    have hopen : s.isOpen = true → s.shutdown.isOpen = true := by
      rw [hsame]
      exact id
    rw [lost_of_isOpen hopen, hsame, List.append_nil]
    exact ⟨rfl, .refl _⟩

theorem grows_finalFile (s : JsonLinesSink) : s.file.Grows s.finalFile := by
  cases hs : s.state with
  | closed f => simp only [file, finalFile, hs]; exact .refl _
  | opened writer =>
    simp only [file, finalFile, hs]
    exact (BufferedFile.gets_flush writer).1.grows

/-- A file that is closed holds all that is left of what the sink was given. -/
theorem bytes_finalFile_of_closed (h : s.isOpen = false) :
    s.finalFile.bytes.toList = s.given := by
  cases hs : s.state with
  | closed file => simp only [finalFile, hs, given]
  | opened writer => simp [isOpen, hs] at h

end JsonLinesSink

end LogOrigin
