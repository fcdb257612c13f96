import LogOrigin.Proofs.DeviceFailures

/-!
# Torn lines

What is left of a record that does not count. Its pieces are written one by one, so those before the
piece that fails stay with the writer (`BufferedFile.exists_cut`), and with them the record's
opening brace, unless that is what fails (`JsonLinesSink.Stuck`). What stays has no line feed, so
the next line that counts begins on the same line of the file. All this holds in whatever pieces the
texts come (`JsonLinesSink.write_whole_or_torn`).
-/

namespace LogOrigin

open Json.Byte (lineFeed openBrace)

namespace BufferedFile

/-- A byte cannot be written if and only if the buffer is full and is not handed over. -/
theorem write_byte_failed_iff (w : BufferedFile) (b : UInt8) :
    (w.write [b]).2 = false ↔ capacity ≤ w.pending.size ∧ w.flush.2 = false := by
  have hplace : ∀ w' : BufferedFile, (w'.place [b]).2 = true := by
    intro w'
    have hsmall : ¬ capacity ≤ [b].length := Nat.not_le_of_lt (by decide : 1 < capacity)
    unfold place
    rw [if_neg hsmall]
  unfold write
  split
  · rename_i hroom
    have hsize : w.pending.size + 1 ≤ capacity := hroom
    rw [hplace]
    exact iff_of_false (by decide) fun h => by omega
  · rename_i hfull
    have hsize : capacity ≤ w.pending.size := Nat.le_of_lt_succ (Nat.lt_of_not_le hfull)
    split
    · rename_i w' heq
      rw [hplace, heq]
      exact iff_of_false (by decide) fun h => by cases h.2
    · rename_i w' heq
      rw [heq]
      exact iff_of_true rfl ⟨hsize, rfl⟩

theorem writeAll_cons (w : BufferedFile) (piece : List UInt8) (rest : List (List UInt8)) :
    w.writeAll (piece :: rest) =
      if (w.write piece).2 then (w.write piece).1.writeAll rest else w.write piece := by
  rw [writeAll]
  split <;> rename_i heq <;> rw [heq] <;> rfl

/-- Where pieces fail, those before the one that fails are written, and of that one something only
if it is as large as the buffer. -/
theorem exists_cut (w : BufferedFile) (pieces : List (List UInt8))
    (hfailed : (w.writeAll pieces).2 = false) :
    ∃ front piece back part, pieces = front ++ piece :: back ∧ (w.writeAll front).2 = true ∧
      ((w.writeAll front).1.write piece).2 = false ∧ part <+: piece ∧
      (piece.length < capacity → part = []) ∧
      (w.writeAll pieces).1.given = w.given ++ (front.flatten ++ part) := by
  induction pieces generalizing w with
  | nil => cases hfailed
  | cons piece pieces ih =>
    obtain ⟨taken, hgets, hsmall⟩ := gets_write w piece
    by_cases hdone : (w.write piece).2 = true
    · have hall : ∀ rest, w.writeAll (piece :: rest) = (w.write piece).1.writeAll rest := by
        intro rest
        rw [writeAll_cons, if_pos hdone]
      rw [hall] at hfailed ⊢
      obtain ⟨front, next, back, part, rfl, hfront, hnext, hpart, hlarge, hgiven⟩ :=
        ih _ hfailed
      refine ⟨piece :: front, next, back, part, rfl, ?_, ?_, hpart, hlarge, ?_⟩
      · rw [hall, hfront]
      · rw [hall, hnext]
      · rw [hgiven, hgets.given, hgets.all hdone, List.flatten_cons, List.append_assoc,
          List.append_assoc]
    · have hpiece : (w.write piece).2 = false := Bool.eq_false_iff.mpr hdone
      refine ⟨[], piece, pieces, taken, rfl, rfl, hpiece, hgets.begins,
        fun h => hsmall h hpiece, ?_⟩
      rw [writeAll_cons, if_neg hdone]
      exact hgets.given

end BufferedFile

namespace JsonLinesSink

variable {s : JsonLinesSink} {r : LogRecord}

/-- Not a byte can be written: the file is closed, or the buffer is full and is not handed over. -/
def Stuck (s : JsonLinesSink) : Prop :=
  match s.state with
  | .closed _ => True
  | .opened writer => BufferedFile.capacity ≤ writer.pending.size ∧ writer.flush.2 = false

theorem stuck_iff {writer : BufferedFile} (hs : s.state = .opened writer) :
    s.Stuck ↔ (writer.write [openBrace]).2 = false := by
  rw [writer.write_byte_failed_iff, Stuck, hs]

/-- The pieces before the one that fails are left of a record that does not count. They are none if
and only if it is the opening brace that fails. -/
theorem exists_torn (c : r.Chopping) (h : (s.writePieces c.pieces).written = s.written)
    (hopen : s.isOpen = true) :
    ∃ front piece back part, c.pieces ++ [[lineFeed]] = front ++ piece :: back ∧ part <+: piece ∧
      (piece.length < BufferedFile.capacity → part = []) ∧
      (s.writePieces c.pieces).given = s.given ++ (front.flatten ++ part) ∧
      (front.flatten ++ part = [] ↔ s.Stuck) := by
  cases hs : s.state with
  | closed file => simp [isOpen, hs] at hopen
  | opened writer =>
    have hfailed : (writer.writeAll (c.pieces ++ [[lineFeed]])).2 = false := by
      refine Bool.eq_false_iff.mpr fun hdone => ?_
      simp only [writePieces, hs, hdone, if_true] at h
      omega
    obtain ⟨front, piece, back, part, hpieces, hfront, hpiece, hpart, hsmall, hgiven⟩ :=
      writer.exists_cut (c.pieces ++ [[lineFeed]]) hfailed
    obtain ⟨rest, hrest⟩ : ∃ rest, c.pieces ++ [[lineFeed]] = [openBrace] :: rest := by
      obtain ⟨rest, hrest⟩ := List.head?_eq_some_iff.mp c.head?_pieces
      exact ⟨rest ++ [[lineFeed]], by rw [hrest, List.cons_append]⟩
    refine ⟨front, piece, back, part, hpieces, hpart, hsmall, ?_, ?_⟩
    · simp only [writePieces, given, hs]
      exact hgiven
    · rw [stuck_iff hs]
      rw [hrest] at hpieces
      cases front with
      | nil =>
        obtain ⟨rfl, -⟩ := List.cons.inj hpieces
        exact iff_of_true (hsmall (by decide)) hpiece
      | cons first front =>
        obtain ⟨rfl, -⟩ := List.cons.inj hpieces
        refine iff_of_false (by simp) fun hbrace => ?_
        rw [BufferedFile.writeAll_cons, hbrace, if_neg Bool.false_ne_true, hbrace] at hfront
        cases hfront

/-- Of a record that counts the whole line is given to the file, of one that does not the beginning
of its text. -/
theorem writePieces_cases (s : JsonLinesSink) (c : r.Chopping) :
    ((s.writePieces c.pieces).written = s.written + 1 ∧
      (s.writePieces c.pieces).given = s.given ++ r.line) ∨
    ((s.writePieces c.pieces).written = s.written ∧
      ∃ torn, torn <+: r.toJson.render ∧ (s.writePieces c.pieces).given = s.given ++ torn) := by
  cases hopen : s.isOpen with
  | false =>
    rw [writePieces_of_closed c.pieces hopen]
    exact .inr ⟨rfl, [], List.nil_prefix, (List.append_nil _).symm⟩
  | true =>
    obtain ⟨taken, hleaves, hgiven, -, hwritten⟩ := writePieces_leaves c hopen
    rw [List.countP_singleton] at hwritten
    rcases hleaves with rfl | hfront
    · have hmem : lineFeed ∈ r.line := by rw [LogRecord.line]; simp
      rw [if_pos (decide_eq_true hmem)] at hwritten
      exact .inl ⟨hwritten, hgiven⟩
    · have hnone : lineFeed ∉ taken := fun hmem => r.lineFeed_not_mem_render (hfront.mem hmem)
      rw [if_neg (by simpa using hnone)] at hwritten
      exact .inr ⟨hwritten, taken, hfront, hgiven⟩

theorem given_of_counts (c : r.Chopping) (h : (s.writePieces c.pieces).written = s.written + 1) :
    (s.writePieces c.pieces).given = s.given ++ r.line := by
  rcases s.writePieces_cases c with ⟨-, hgiven⟩ | ⟨hwritten, -⟩
  · exact hgiven
  · omega

/-- A record that is written counts, and its whole line is given to the file, or it does not, and
what stays of it is the beginning of its text: the pieces before the one that fails, and some of
that one if it is as large as the buffer. Nothing stays if and only if not a byte could be written.
What stays is not taken back, so the line of the next record that counts follows on the same line.
This holds for the pieces that a sink writes, and for any others that begin with the opening
brace. -/
theorem write_whole_or_torn (s : JsonLinesSink) (r : LogRecord) :
    s.write r = s.writePieces r.chopping.pieces ∧
    ∀ c : r.Chopping,
      let s' := s.writePieces c.pieces
      (s'.written = s.written + 1 ∧ s'.given = s.given ++ r.line) ∨
      (s'.written = s.written ∧ ∃ torn, s'.given = s.given ++ torn ∧
        torn <+: r.toJson.render ∧ lineFeed ∉ torn ∧
        (torn = [] ↔ s.Stuck) ∧
        (s.isOpen = true → ∃ front piece back part,
          c.pieces ++ [[lineFeed]] = front ++ piece :: back ∧
          torn = front.flatten ++ part ∧ part <+: piece ∧
          (piece.length < BufferedFile.capacity → part = [])) ∧
        ∀ (next : LogRecord) (d : next.Chopping),
          (s'.writePieces d.pieces).written = s'.written + 1 →
          (s'.writePieces d.pieces).given = s.given ++ (torn ++ next.line)) := by
  refine ⟨rfl, fun c => ?_⟩
  intro s'
  rcases s.writePieces_cases c with hwhole | ⟨hwritten, torn, hbegins, hgiven⟩
  · exact .inl hwhole
  · right
    have hnext : ∀ (next : LogRecord) (d : next.Chopping),
        (s'.writePieces d.pieces).written = s'.written + 1 →
        (s'.writePieces d.pieces).given = s.given ++ (torn ++ next.line) := by
      intro next d hcounts
      rw [given_of_counts d hcounts, hgiven, List.append_assoc]
    refine ⟨hwritten, torn, hgiven, hbegins,
      fun hmem => r.lineFeed_not_mem_render (hbegins.mem hmem), ?_, ?_, hnext⟩
    · cases hopen : s.isOpen with
      | false =>
        rw [writePieces_of_closed c.pieces hopen] at hgiven
        have hnone : torn = [] := List.append_right_eq_self.mp hgiven.symm
        have hstuck : s.Stuck := by
          cases hs : s.state with
          | closed file => simp only [Stuck, hs]
          | opened writer => simp [isOpen, hs] at hopen
        exact iff_of_true hnone hstuck
      | true =>
        obtain ⟨front, piece, back, part, -, -, -, hgiven', hstuck⟩ :=
          exists_torn c hwritten hopen
        rwa [List.append_cancel_left (hgiven.symm.trans hgiven')]
    · intro hopen
      obtain ⟨front, piece, back, part, hpieces, hpart, hsmall, hgiven', -⟩ :=
        exists_torn c hwritten hopen
      exact ⟨front, piece, back, part, hpieces,
        List.append_cancel_left (hgiven.symm.trans hgiven'), hpart, hsmall⟩

end JsonLinesSink

/-! ## A line longer than the buffer -/

namespace BufferedFile

variable {w : BufferedFile}

/-- A writer over an empty file that takes nothing. -/
structure Jammed (w : BufferedFile) : Prop where
  takesNothing : ∀ n, w.file.limit n = some 0
  empty : w.file.bytes = #[]
  room : w.pending.size ≤ capacity

/-- A file that takes nothing stays empty. -/
theorem Jammed.append (h : w.Jammed) (new : Array UInt8) :
    (w.file.append new).1.bytes = #[] ∧ (∀ n, (w.file.append new).1.limit n = some 0) ∧
      (w.file.append new).2 = some new := by
  have hempty : w.file.content.getD #[] = #[] := h.empty
  rw [OutputFile.append]
  split
  · next hlimit =>
    rw [h.takesNothing] at hlimit
    cases hlimit
  · next n hlimit =>
    rw [h.takesNothing] at hlimit
    cases hlimit
    simp [OutputFile.bytes, hempty, h.takesNothing]

theorem Jammed.flush (h : w.Jammed) :
    w.flush.1.Jammed ∧ w.flush.1.pending = w.pending ∧ (w.flush.2 = true → w.pending = #[]) := by
  obtain ⟨hempty, htakes, hrest⟩ := h.append w.pending
  unfold BufferedFile.flush
  split
  · next hnone => exact ⟨h, rfl, fun _ => Array.isEmpty_iff.mp hnone⟩
  · split
    · next heq =>
      rw [heq] at hrest
      cases hrest
    · next file rest heq =>
      rw [heq] at hempty htakes hrest
      obtain rfl := Option.some.inj hrest
      exact ⟨⟨htakes, hempty, h.room⟩, rfl, fun hdone => absurd hdone Bool.false_ne_true⟩

theorem Jammed.place (h : w.Jammed) {piece : List UInt8}
    (hroom : w.pending.size + piece.length ≤ capacity ∨ w.pending = #[]) :
    (w.place piece).1.Jammed := by
  unfold BufferedFile.place
  split
  · obtain ⟨hempty, htakes, -⟩ := h.append piece.toArray
    exact ⟨htakes, hempty, h.room⟩
  · next hsmall =>
    have hsize : (w.pending ++ piece.toArray).size = w.pending.size + piece.length := by simp
    refine ⟨h.takesNothing, h.empty, Nat.le_trans (Nat.le_of_eq hsize) ?_⟩
    rcases hroom with hroom | hnone
    · exact hroom
    · rw [hnone]
      simpa using Nat.le_of_lt (Nat.lt_of_not_le hsmall)

theorem Jammed.write (h : w.Jammed) (piece : List UInt8) : (w.write piece).1.Jammed := by
  obtain ⟨hflush, hpending, hnone⟩ := h.flush
  unfold BufferedFile.write
  split
  · next hroom => exact h.place (.inl hroom)
  · split
    · next heq =>
      rw [heq] at hflush hpending hnone
      exact hflush.place (.inr (hpending.trans (hnone rfl)))
    · next heq =>
      rw [heq] at hflush
      exact hflush

theorem Jammed.writeAll (h : w.Jammed) (pieces : List (List UInt8)) :
    (w.writeAll pieces).1.Jammed := by
  induction pieces generalizing w with
  | nil => exact h
  | cons piece pieces ih =>
    rw [writeAll_cons]
    split
    · exact ih (h.write piece)
    · exact h.write piece

/-- Over a file that takes nothing, there is never more than fits into the buffer. -/
theorem Jammed.length_given_le (h : w.Jammed) : w.given.length ≤ capacity := by
  rw [given, h.empty, List.length_append, Array.length_toList, Array.length_toList]
  exact Nat.le_trans (Nat.le_of_eq (Nat.zero_add _)) h.room

end BufferedFile

namespace JsonLinesSink

variable {s : JsonLinesSink} {r : LogRecord}

/-- A line that is longer than the buffer does not count over a file that takes nothing, and its
beginning stays. -/
theorem write_of_jammed {writer : BufferedFile} (hs : s.state = .opened writer)
    (hjammed : writer.Jammed) (hroom : writer.pending.size < BufferedFile.capacity)
    (hlong : BufferedFile.capacity < r.line.length) :
    (s.write r).written = s.written ∧ (s.write r).given ≠ s.given := by
  have hchopped : s.write r = s.writePieces r.chopping.pieces := rfl
  rw [hchopped]
  have hwritten : (s.writePieces r.chopping.pieces).written = s.written := by
    rcases s.writePieces_cases r.chopping with ⟨-, hgiven⟩ | ⟨hwritten, -⟩
    · have hfits : (s.writePieces r.chopping.pieces).given.length ≤ BufferedFile.capacity := by
        simp only [writePieces, hs, given]
        exact (hjammed.writeAll _).length_given_le
      rw [hgiven, List.length_append] at hfits
      omega
    · exact hwritten
  refine ⟨hwritten, fun hsame => ?_⟩
  have hopen : s.isOpen = true := by simp only [isOpen, hs]
  obtain ⟨front, piece, back, part, -, -, -, hgiven, hstuck⟩ :=
    exists_torn r.chopping hwritten hopen
  have htorn : front.flatten ++ part = [] :=
    List.append_right_eq_self.mp (hgiven.symm.trans hsame)
  have hfull : s.Stuck := hstuck.mp htorn
  rw [Stuck, hs] at hfull
  exact absurd hfull.1 (Nat.not_le_of_lt hroom)

end JsonLinesSink

namespace LogRecord

open Json (escaped)

/-- The length of a text goes with that of its message. -/
theorem length_render_message (r : LogRecord) (m : String) :
    { r with message := m }.toJson.render.length + (escaped (bytesOf r.message)).length =
      r.toJson.render.length + (escaped (bytesOf m)).length := by
  simp only [toJson, membersBehindTime, Json.Value.render, Json.Value.pieces,
    Json.Value.memberPieces, List.flatten_append, List.flatten_cons, List.length_append,
    Json.flatten_textPieces, List.length_cons]
  omega

/-- A record with a message of `n` letters. -/
def ofLetters (n : Nat) : LogRecord :=
  { unruly with message := String.ofList (List.replicate n 'a') }

theorem length_line_ofLetters (n : Nat) : n + 300 < (ofLetters n).line.length := by
  have hletters : escaped (bytesOf (String.ofList (List.replicate n 'a'))) =
      List.replicate n 0x61 := by
    rw [bytesOf_ofList]
    induction n with
    | zero => rfl
    | succ n ih =>
      rw [List.replicate_succ, List.flatMap_cons, escaped, List.flatMap_append, ← escaped,
        ← escaped, ih]
      rfl
  have hlength := unruly.length_render_message (String.ofList (List.replicate n 'a'))
  rw [← ofLetters, hletters, List.length_replicate] at hlength
  have hothers : 300 + (escaped (bytesOf unruly.message)).length ≤ unruly.toJson.render.length := by
    decide +kernel
  rw [line, List.length_append, List.length_singleton]
  omega

end LogRecord

/-- A line that is longer than the buffer does not count where the file takes nothing, and its
beginning stays with the writer. -/
theorem JsonLinesSink.write_lengthy :
    let s := (JsonLinesSink.start "Log4j" (.ofFile "/dev/full" AdapterSet.fullFile)).sink
    let s' := s.write (LogRecord.ofLetters 7960)
    s'.written = s.written ∧ s'.given ≠ s.given := by
  have hjammed : BufferedFile.Jammed { file := AdapterSet.fullFile } :=
    ⟨fun _ => rfl, rfl, Nat.zero_le _⟩
  have hlong : BufferedFile.capacity < (LogRecord.ofLetters 7960).line.length :=
    Nat.lt_trans (by decide) (LogRecord.length_line_ofLetters 7960)
  exact write_of_jammed rfl hjammed (by decide) hlong

end LogOrigin
