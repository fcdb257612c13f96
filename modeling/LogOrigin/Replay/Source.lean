import LogOrigin.Error
import LogOrigin.Json.Byte

/-!
# Lines of an input

An input arrives in chunks that need not end where lines do. Lines are read one at a time, and of a
line that is longer than a limit only the beginning is kept. A carriage return right before the line
feed belongs to the terminator. Every line takes at least one byte off the input.
-/

namespace LogOrigin

/-- An input, as far as it has not been read. -/
structure Source where
  chunks : List (List UInt8)
  /-- Why reading fails behind the last chunk; nothing if the input just ends. -/
  failure : Option IoError := none

namespace Source

/-- The bytes of an input. -/
def bytes (s : Source) : List UInt8 := s.chunks.flatten

/-- An input that arrives in chunks of the given size, the last one perhaps smaller. -/
def chunked (size : Nat) (input : List UInt8) : Source :=
  ⟨go size [] [] input, none⟩
where
  /-- Collects the current chunk and the chunks before it, both in reverse. -/
  go : Nat → List UInt8 → List (List UInt8) → List UInt8 → List (List UInt8)
    | _, chunk, done, [] => (chunk.reverse :: done).reverse
    | 0, chunk, done, b :: rest => go (size - 1) [b] (chunk.reverse :: done) rest
    | room + 1, chunk, done, b :: rest => go room (b :: chunk) done rest

end Source

/-- A line of the input. -/
structure Line where
  /-- Its length without the terminator. -/
  length : Nat
  /-- The line without its terminator, or its beginning if it is too long. -/
  kept : List UInt8
  deriving DecidableEq, Repr

namespace Line

/-- Where reading stopped. -/
inductive Stop where
  | lineFeed
  /-- There was no room for more bytes. -/
  | full
  /-- There were no more bytes. -/
  | exhausted
  deriving DecidableEq, Repr

/-- The beginning of a line: its bytes in reverse, where reading stopped, and the chunks that are
left. -/
structure Head where
  reversed : List UInt8
  stop : Stop
  rest : List (List UInt8)

/-- Reads bytes up to a line feed, while there is room for them. -/
def readHead (done : List UInt8) (room : Nat) (chunk : List UInt8) (chunks : List (List UInt8)) :
    Head :=
  match room, chunk, chunks with
  | _, [], [] => ⟨done, .exhausted, []⟩
  | room, [], chunk :: chunks => readHead done room chunk chunks
  | 0, b :: chunk, chunks => ⟨done, .full, (b :: chunk) :: chunks⟩
  | room + 1, b :: chunk, chunks =>
    if b = Json.Byte.lineFeed then ⟨done, .lineFeed, chunk :: chunks⟩
    else readHead (b :: done) room chunk chunks
termination_by (chunks.length, chunk.length)

/-- The rest of a line whose beginning was kept. -/
structure Tail where
  /-- How many bytes it has. -/
  length : Nat
  stop : Stop
  rest : List (List UInt8)

/-- Passes over bytes up to a line feed, counting on from `count`. -/
def skipTail (count : Nat) (chunk : List UInt8) (chunks : List (List UInt8)) : Tail :=
  match chunk, chunks with
  | [], [] => ⟨count, .exhausted, []⟩
  | [], chunk :: chunks => skipTail count chunk chunks
  | b :: chunk, chunks =>
    if b = Json.Byte.lineFeed then ⟨count, .lineFeed, chunk :: chunks⟩
    else skipTail (count + 1) chunk chunks
termination_by (chunks.length, chunk.length)

/-- A line that a line feed ended, given its bytes in reverse. -/
def ofReversed (reversed : List UInt8) : Line :=
  let kept := match reversed with
    | b :: before => if b = Json.Byte.carriageReturn then before.reverse else reversed.reverse
    | [] => []
  ⟨kept.length, kept⟩

/-- Reads the next line, keeping at most one byte more than `most` of it; nothing at the end of the
input. -/
def read (most : Nat) (s : Source) : Except IoError (Option (Line × Source)) :=
  let head := readHead [] (most + 1) [] s.chunks
  let rest : Source := ⟨head.rest, s.failure⟩
  match head.stop, s.failure with
  | .lineFeed, _ => .ok (some (ofReversed head.reversed, rest))
  | .exhausted, some cause => .error cause
  | .exhausted, none =>
    if head.reversed.isEmpty then .ok none
    else .ok (some (⟨head.reversed.length, head.reversed.reverse⟩, rest))
  | .full, failure =>
    let tail := skipTail (most + 1) [] head.rest
    match tail.stop, failure with
    | .exhausted, some cause => .error cause
    | _, _ => .ok (some (⟨tail.length, head.reversed.reverse⟩, ⟨tail.rest, s.failure⟩))

/-! ## Bytes are accounted for -/

/-- What the head of a line took, a line feed included, and what it left make up the input. -/
theorem length_readHead (done : List UInt8) (room : Nat) (chunk : List UInt8)
    (chunks : List (List UInt8)) :
    let head := readHead done room chunk chunks
    head.reversed.length + (if head.stop = .lineFeed then 1 else 0) + head.rest.flatten.length =
      done.length + chunk.length + chunks.flatten.length := by
  fun_induction readHead done room chunk chunks with
  | case1 => simp
  | case2 done room chunk chunks ih =>
    simp only [List.flatten_cons, List.length_append, List.length_nil]
    omega
  | case3 =>
    simp only [List.flatten_cons, List.length_append, reduceCtorEq, if_false]
    omega
  | case4 =>
    simp only [List.flatten_cons, List.length_append, List.length_cons, if_true]
    omega
  | case5 done room b chunk chunks hb ih =>
    simp only [List.length_cons] at ih ⊢
    omega

/-- The tail of a line leaves no more than it found. -/
theorem length_skipTail (count : Nat) (chunk : List UInt8) (chunks : List (List UInt8)) :
    (skipTail count chunk chunks).rest.flatten.length ≤ chunk.length + chunks.flatten.length := by
  fun_induction skipTail count chunk chunks with
  | case1 => simp
  | case2 count chunk chunks ih =>
    simp only [List.flatten_cons, List.length_append, List.length_nil]
    omega
  | case3 => simp
  | case4 count b chunk chunks hb ih =>
    rw [List.length_cons]
    omega

/-- A head that stopped for want of room is full. -/
theorem length_reversed_of_full (done : List UInt8) (room : Nat) (chunk : List UInt8)
    (chunks : List (List UInt8)) (h : (readHead done room chunk chunks).stop = .full) :
    (readHead done room chunk chunks).reversed.length = done.length + room := by
  fun_induction readHead done room chunk chunks with
  | case1 => cases h
  | case2 done room chunk chunks ih => exact ih h
  | case3 => rfl
  | case4 => cases h
  | case5 done room b chunk chunks hb ih =>
    rw [ih h, List.length_cons]
    omega

/-- Reading a line takes at least one byte off the input. -/
theorem length_bytes_of_read {most : Nat} {s rest : Source} {l : Line}
    (h : read most s = .ok (some (l, rest))) : rest.bytes.length < s.bytes.length := by
  have hhead := length_readHead [] (most + 1) [] s.chunks
  have hfull := length_reversed_of_full [] (most + 1) [] s.chunks
  have htail := length_skipTail (most + 1) [] (readHead [] (most + 1) [] s.chunks).rest
  revert h hhead hfull htail
  rw [read]
  generalize readHead [] (most + 1) [] s.chunks = head
  intro h hhead hfull htail
  simp only [Source.bytes] at *
  split at h
  next hstop =>
    simp only [Except.ok.injEq, Option.some.injEq, Prod.mk.injEq] at h
    obtain ⟨-, rfl⟩ := h
    simp_all
    omega
  next => simp at h
  next hstop _ =>
    split at h
    next => simp at h
    next hne =>
      simp only [Except.ok.injEq, Option.some.injEq, Prod.mk.injEq] at h
      obtain ⟨-, rfl⟩ := h
      have : 0 < head.reversed.length := by
        cases hr : head.reversed with
        | nil => simp [hr] at hne
        | cons b r => simp
      simp_all
      omega
  next hstop =>
    split at h
    next => simp at h
    next =>
      simp only [Except.ok.injEq, Option.some.injEq, Prod.mk.injEq] at h
      obtain ⟨-, rfl⟩ := h
      simp_all
      omega

/-- Reads the lines of an input behind those in `done`, which are in reverse, up to its end or to
where reading fails. -/
def readAllFrom (most : Nat) (done : List Line) (s : Source) : List Line × Option IoError :=
  match h : read most s with
  | .error cause => (done.reverse, some cause)
  | .ok none => (done.reverse, none)
  | .ok (some (l, rest)) =>
    have := length_bytes_of_read h
    readAllFrom most (l :: done) rest
termination_by s.bytes.length

/-- The lines of an input, and why reading failed if it did. -/
def readAll (most : Nat) (s : Source) : List Line × Option IoError := readAllFrom most [] s

end Line

end LogOrigin
