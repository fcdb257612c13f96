import LogOrigin.Json.Byte
import LogOrigin.Json.Value
import LogOrigin.Binary64.Shortest

/-!
# Compact JSON text

A value is written without blanks. In strings the quote, the backslash and the controls below the
space are escaped, and every other byte stands for itself. The text comes as the pieces in which a
writer hands it on: a string is its quotes, its unescaped runs and its escapes, and it may itself
come in parts.
-/

namespace LogOrigin.Json

/-- Exponents from -5 to 15 are written positionally. -/
def realLayout : Binary64.Layout := ⟨fun e => -5 ≤ e && e ≤ 15⟩

/-- A hexadecimal digit in lower case. -/
def hexByte (n : Nat) : UInt8 :=
  if n < 10 then UInt8.ofNat (0x30 + n) else UInt8.ofNat (0x57 + n)

/-- The escape of a byte that may not stand in a string. -/
def escape? (b : UInt8) : Option (List UInt8) :=
  if b == Byte.quote then some [Byte.backslash, Byte.quote]
  else if b == Byte.backslash then some [Byte.backslash, Byte.backslash]
  else if 0x20 ≤ b then none
  else if b == 0x08 then some [Byte.backslash, 0x62]
  else if b == 0x0C then some [Byte.backslash, 0x66]
  else if b == Byte.lineFeed then some [Byte.backslash, 0x6E]
  else if b == Byte.carriageReturn then some [Byte.backslash, 0x72]
  else if b == Byte.tab then some [Byte.backslash, 0x74]
  else some [Byte.backslash, Byte.letterU, Byte.zero, Byte.zero, hexByte (b.toNat / 16),
    hexByte (b.toNat % 16)]

/-- The pieces of a string's inside: `run` is the unescaped run being collected and `done` the
pieces before it, both in reverse. -/
def insidePieces (done : List (List UInt8)) (run : List UInt8) : List UInt8 → List (List UInt8)
  | [] => (if run.isEmpty then done else run.reverse :: done).reverse
  | b :: rest =>
    match escape? b with
    | none => insidePieces done (b :: run) rest
    | some e => insidePieces (e :: if run.isEmpty then done else run.reverse :: done) [] rest

/-- The pieces of a string that comes in parts. -/
def partPieces (parts : List String) : List (List UInt8) :=
  [Byte.quote] :: parts.flatMap (fun s => insidePieces [] [] (bytesOf s)) ++ [[Byte.quote]]

/-- The pieces of a string. -/
def textPieces (s : String) : List (List UInt8) := partPieces [s]

/-- The text of a number. -/
def Number.text : Number → String
  | .integer i => toString i
  | .real r => r.text realLayout

namespace Value

mutual

/-- The pieces of the compact text of a value. -/
def pieces : Value → List (List UInt8)
  | null => [bytesOf "null"]
  | bool b => [bytesOf (if b then "true" else "false")]
  | number n => [bytesOf n.text]
  | text s => textPieces s
  | list items => [Byte.openBracket] :: itemPieces true items ++ [[Byte.closeBracket]]
  | object members => [Byte.openBrace] :: memberPieces true members ++ [[Byte.closeBrace]]

/-- The pieces of list items, each but the first after a comma. -/
def itemPieces (first : Bool) : List Value → List (List UInt8)
  | [] => []
  | v :: rest => (if first then [] else [[Byte.comma]]) ++ pieces v ++ itemPieces false rest

/-- The pieces of object members, each but the first after a comma. -/
def memberPieces (first : Bool) : List (String × Value) → List (List UInt8)
  | [] => []
  | (k, v) :: rest =>
    (if first then [] else [[Byte.comma]]) ++ textPieces k ++ [Byte.colon] :: pieces v ++
      memberPieces false rest

end

/-- The compact text of a value. -/
def render (v : Value) : List UInt8 :=
  v.pieces.flatten

end Value

end LogOrigin.Json
