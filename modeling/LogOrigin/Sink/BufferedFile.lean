import LogOrigin.Sink.OutputFile

/-!
# Buffered writing

A writer collects bytes until its buffer has no room for more, and hands them over together. Bytes
that the file did not take stay in the buffer. A piece as large as the buffer goes to the file
directly.
-/

namespace LogOrigin

/-- A file that is open, with the bytes that have not been handed over. -/
structure BufferedFile where
  file : OutputFile
  pending : Array UInt8 := #[]

namespace BufferedFile

/-- How many bytes the buffer holds. -/
def capacity : Nat := 8192

/-- Hands over what is pending; false if the file failed. -/
def flush (w : BufferedFile) : BufferedFile × Bool :=
  if w.pending.isEmpty then (w, true)
  else
    match w.file.append w.pending with
    | (file, none) => (⟨file, #[]⟩, true)
    | (file, some rest) => (⟨file, rest⟩, false)

/-- Writes a piece for which the buffer has room, or which goes to the file directly; false if the
file failed. -/
def place (w : BufferedFile) (piece : List UInt8) : BufferedFile × Bool :=
  if capacity ≤ piece.length then
    match w.file.append piece.toArray with
    | (file, rest) => ({ w with file }, rest.isNone)
  else ({ w with pending := w.pending ++ piece.toArray }, true)

/-- Writes a piece; false if the file failed, and then some of the piece may have been written. -/
def write (w : BufferedFile) (piece : List UInt8) : BufferedFile × Bool :=
  if w.pending.size + piece.length ≤ capacity then w.place piece
  else
    match w.flush with
    | (w, true) => w.place piece
    | (w, false) => (w, false)

/-- Writes pieces up to the first at which the file fails. -/
def writeAll (w : BufferedFile) : List (List UInt8) → BufferedFile × Bool
  | [] => (w, true)
  | piece :: rest =>
    match w.write piece with
    | (w, true) => w.writeAll rest
    | (w, false) => (w, false)

/-- Closes the file after a last attempt to hand over what is pending, which is lost otherwise. -/
def close (w : BufferedFile) : OutputFile := w.flush.1.file

end BufferedFile

end LogOrigin
