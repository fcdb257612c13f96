import LogOrigin.Decode.Basic
import LogOrigin.Json.Reader

/-!
# Decoding whole texts

A text describes a value if its root does and nothing but blanks follows. Faults are met in the
order of the text, so a wrong type in front hides malformed text behind it.
-/

namespace LogOrigin.Decode

variable {α : Type}

/-- Decodes a document. -/
def document (decode : DeepDecoder α) (d : Json.Document) : Except Fault α := do
  let a ← decode Json.maxDepth .streamed d.root
  if d.trailing then throw (.malformed .trailingText)
  return a

/-- Decodes JSON text. -/
def bytes (decode : DeepDecoder α) (input : List UInt8) : Except Fault α :=
  document decode (Json.read input)

/-- Decodes a value that a caller hands in. -/
def value (decode : DeepDecoder α) (v : Json.Value) : Except Fault α :=
  decode Json.maxDepth .given (.ofValue v)

/-- Decodes a value that was read before its type was known. -/
def keptValue (decode : DeepDecoder α) (v : Json.Value) : Except Fault α :=
  decode Json.maxDepth .kept (.ofValue v)

end LogOrigin.Decode
