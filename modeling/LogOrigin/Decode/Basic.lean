import LogOrigin.Decode.Fault

/-!
# Decoders

A decoder turns a node into a value of a type or says why it cannot. What it objects to depends a
little on where the node comes from: text that is being read, a value that was read before and
kept, a value that a caller hands in, or a table of a configuration file.
-/

namespace LogOrigin.Decode

open Json (Found TextFault Node ListEnding)

/-- Where a node comes from. -/
inductive Origin where
  /-- JSON text that is read as it is decoded. -/
  | streamed
  /-- A JSON value that was read earlier and kept until its type was known. -/
  | kept
  /-- A JSON value that a caller hands in. -/
  | given
  /-- A value of a configuration file. -/
  | table
  deriving DecidableEq, Repr

/-- Reads a value of type `α` off a node. -/
abbrev Decoder (α : Type) := Origin → Node → Except Fault α

/-- Reads a value off a node whose lists and objects are nested at most so deep. -/
abbrev DeepDecoder (α : Type) := Nat → Decoder α

variable {α : Type}

/-- A fault of the text as a fault of decoding. -/
def ofText {β : Type} : Except TextFault β → Except Fault β
  | .ok b => .ok b
  | .error fault => .error (.malformed fault)

/-- Refuses a node where something else was wanted. -/
def mismatch (wanted : Expectation) (node : Node) : Except Fault α :=
  match node.found with
  | .ok found => .error (.wrongType found wanted)
  | .error fault => .error (.malformed fault)

/-- Fails if there is a fault of the text. -/
def raise (fault : Option TextFault) : Except Fault Unit :=
  match fault with
  | none => .ok ()
  | some fault => .error (.malformed fault)

/-- A text. -/
def text : Decoder String
  | _, .text s => ofText s
  | _, node => mismatch .text node

/-- An integer between bounds. -/
def integer (wanted : Expectation) (least greatest : Int) : Decoder Int
  | _, .number (.ok (.integer i)) =>
    if least ≤ i && i ≤ greatest then .ok i else .error (.wrongValue (.integer i) wanted)
  | _, node => mismatch wanted node

/-- A number below `2 ^ 32`. -/
def unsigned32 : Decoder Nat := fun o n =>
  Int.toNat <$> integer .unsigned32 0 (Int.pow 2 32 - 1) o n

/-- A number below `2 ^ 64`. -/
def unsigned64 : Decoder Nat := fun o n =>
  Int.toNat <$> integer .unsigned64 0 (Int.pow 2 64 - 1) o n

/-- A size, which is below `2 ^ 64`. -/
def size : Decoder Nat := fun o n =>
  Int.toNat <$> integer .size 0 (Int.pow 2 64 - 1) o n

/-- A number from `-2 ^ 31` up to below `2 ^ 31`. -/
def signed32 : Decoder Int :=
  integer .signed32 (-Int.pow 2 31) (Int.pow 2 31 - 1)

/-- An instant, given as its text. -/
def instant : Decoder Instant
  | _, .text s => do
    match Instant.parse (← ofText s) with
    | .ok t => return t
    | .error fault => throw (.badInstant fault)
  | _, node => mismatch .instant node

/-- Nothing, given as null. A kept value may also be an empty object. -/
def unit : Decoder Unit
  | _, .null => .ok ()
  | .kept, .object [] .closed => .ok ()
  | _, node => mismatch .unit node

/-- A value that may be null. -/
def nullable (decode : Decoder α) : Decoder (Option α)
  | _, .null => .ok none
  | origin, node => some <$> decode origin node

/-- A list of values. -/
def list (item : DeepDecoder α) : DeepDecoder (List α)
  | 0, _, .list _ _ => .error (.malformed .tooDeep)
  | depth + 1, origin, .list items ending => do
    let values ← items.mapM (item depth origin)
    raise ending.fault?
    return values
  | _, _, node => mismatch .list node

end LogOrigin.Decode
