import LogOrigin.Sink.JsonLines

/-!
# Buffered writing to a file that takes everything

What a buffered writer has been given is what is in its file followed by what is pending
(`BufferedFile.given`). As long as the file takes every hand-over, each piece is added to that, in
order, and nothing is lost when the file is closed.
-/

namespace LogOrigin

namespace OutputFile

variable {f : OutputFile}

/-- A file that takes whatever is handed to it. -/
def Takes (f : OutputFile) : Prop := ∀ n, f.limit n = none

/-- The file is there. -/
def Exists (f : OutputFile) : Prop := f.content = some f.bytes

/-- A file that takes everything takes a hand-over. -/
theorem append_of_takes (h : f.Takes) (new : Array UInt8) :
    f.append new =
      ({ f with handOvers := f.handOvers + 1, content := some (f.bytes ++ new) }, none) := by
  simp only [append, h f.handOvers]

end OutputFile

namespace BufferedFile

variable {w : BufferedFile}

/-- All bytes that the writer was given and the file did not lose. -/
def given (w : BufferedFile) : List UInt8 := w.file.bytes.toList ++ w.pending.toList

/-- A writer over a file that is there and takes everything. -/
structure Sound (w : BufferedFile) : Prop where
  takes : w.file.Takes
  there : w.file.Exists

/-- The writer got bytes, and nothing failed. -/
structure Adds (w : BufferedFile) (bytes : List UInt8) (result : BufferedFile × Bool) : Prop where
  done : result.2 = true
  given : result.1.given = w.given ++ bytes
  sound : result.1.Sound
  refusal : result.1.file.refusal = w.file.refusal

/-- Flushing hands over all that is pending. -/
theorem adds_flush (h : w.Sound) : w.Adds [] w.flush ∧ w.flush.1.pending = #[] := by
  unfold flush
  split
  · rename_i hempty
    exact ⟨⟨rfl, (List.append_nil _).symm, h, rfl⟩, Array.isEmpty_iff.mp hempty⟩
  · rw [OutputFile.append_of_takes h.takes]
    refine ⟨⟨rfl, ?_, ⟨h.takes, rfl⟩, rfl⟩, rfl⟩
    simp [given, OutputFile.bytes]

/-- A piece goes into the buffer, or directly to the file when nothing is pending. -/
theorem adds_place (h : w.Sound) (piece : List UInt8)
    (hroom : w.pending.size + piece.length ≤ capacity ∨ w.pending = #[]) :
    w.Adds piece (w.place piece) := by
  unfold place
  split
  · rename_i hlarge
    have hpending : w.pending = #[] := by
      rcases hroom with hroom | hempty
      · exact Array.eq_empty_of_size_eq_zero (by omega)
      · exact hempty
    rw [OutputFile.append_of_takes h.takes]
    refine ⟨rfl, ?_, ⟨h.takes, rfl⟩, rfl⟩
    simp [given, OutputFile.bytes, hpending]
  · exact ⟨rfl, by simp [given], ⟨h.takes, h.there⟩, rfl⟩

theorem adds_write (h : w.Sound) (piece : List UInt8) : w.Adds piece (w.write piece) := by
  unfold write
  split
  · rename_i hroom
    exact adds_place h piece (.inl hroom)
  · obtain ⟨hflush, hpending⟩ := adds_flush h
    split
    · rename_i w' heq
      rw [heq] at hflush hpending
      have hplace := adds_place hflush.sound piece (.inr hpending)
      refine ⟨hplace.done, ?_, hplace.sound, hplace.refusal.trans hflush.refusal⟩
      rw [hplace.given, hflush.given, List.append_nil]
    · rename_i w' heq
      rw [heq] at hflush
      cases hflush.done

/-- Pieces are added one after the other. -/
theorem adds_writeAll (h : w.Sound) (pieces : List (List UInt8)) :
    w.Adds pieces.flatten (w.writeAll pieces) := by
  induction pieces generalizing w with
  | nil => exact ⟨rfl, (List.append_nil _).symm, h, rfl⟩
  | cons piece pieces ih =>
    have hfirst := adds_write h piece
    rw [writeAll]
    split
    · rename_i w' heq
      rw [heq] at hfirst
      have hrest := ih hfirst.sound
      refine ⟨hrest.done, ?_, hrest.sound, hrest.refusal.trans hfirst.refusal⟩
      rw [hrest.given, hfirst.given, List.flatten_cons, List.append_assoc]
    · rename_i w' heq
      rw [heq] at hfirst
      cases hfirst.done

/-- Closing loses nothing. -/
theorem bytes_close (h : w.Sound) : w.close.bytes.toList = w.given := by
  obtain ⟨hflush, hpending⟩ := adds_flush h
  have hgiven := hflush.given
  rw [List.append_nil, given, hpending] at hgiven
  rw [← hgiven]
  simp [close]

end BufferedFile

end LogOrigin
