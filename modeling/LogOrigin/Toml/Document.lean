import LogOrigin.Decode.Basic
import LogOrigin.Toml.Reader

/-!
# Decoding TOML documents

A document describes a value if it is TOML and its tables decode. Unlike JSON text, a document is
read as a whole before anything is decoded.
-/

namespace LogOrigin.Toml

/-- Why a document does not describe a value. -/
inductive Fault where
  /-- The text is not TOML. -/
  | malformed
  /-- The text is TOML of the wrong types. -/
  | mistyped (fault : Decode.Fault)
  deriving DecidableEq, Repr

/-- Numbers are shown positionally whatever their size. -/
def realLayout : Binary64.Layout := ⟨fun _ => true⟩

/-- The wording of a fault. -/
def Fault.message : Fault → String
  | malformed => "TOML parse error"
  | mistyped fault => "TOML parse error: " ++ fault.message realLayout

/-- Decodes a document. -/
def decode {α : Type} (decode : Decode.DeepDecoder α) (s : String) : Except Fault α :=
  match read? s with
  | none => .error .malformed
  | some v => (decode Json.maxDepth .table (.ofValue v)).mapError .mistyped

end LogOrigin.Toml
