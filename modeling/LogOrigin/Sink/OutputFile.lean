import LogOrigin.Error

/-!
# Files that are appended to

What an output file is to its writer: it opens or does not, and each time bytes are handed to it, it
takes them all, or takes some of them and fails.
-/

namespace LogOrigin

/-- A file as a writer sees it. -/
structure OutputFile where
  /-- What is in it; nothing if it does not exist. -/
  content : Option (Array UInt8) := none
  /-- Why it cannot be opened, if it cannot. -/
  refusal : Option IoError := none
  /-- How many bytes it takes of the hand-over with this number before it fails; it takes them all
  where there is no number. -/
  limit : Nat → Option Nat := fun _ => none
  /-- How many hand-overs there have been. -/
  handOvers : Nat := 0

namespace OutputFile

/-- The bytes in the file. -/
def bytes (f : OutputFile) : Array UInt8 := f.content.getD #[]

/-- Opens the file, which comes into being if it does not exist. -/
def opened? (f : OutputFile) : Except IoError OutputFile :=
  match f.refusal with
  | some cause => .error cause
  | none => .ok { f with content := some f.bytes }

/-- Hands bytes over at the end of the file: the file afterwards, and the bytes that it did not
take, if it failed. -/
def append (f : OutputFile) (new : Array UInt8) : OutputFile × Option (Array UInt8) :=
  let next := { f with handOvers := f.handOvers + 1 }
  match f.limit f.handOvers with
  | none => ({ next with content := some (f.bytes ++ new) }, none)
  | some n => ({ next with content := some (f.bytes ++ new.take n) }, some (new.drop n))

end OutputFile

end LogOrigin
