import LogOrigin.Decode.Variant

/-!
# Severity

The scale on which the levels of all frameworks are placed. `unknown` is its lowest member.
-/

namespace LogOrigin

/-- A position on the common scale. -/
inductive Severity where
  | unknown
  | verbose
  | information
  | warning
  | error
  | critical
  deriving DecidableEq, Repr

namespace Severity

/-- The height on the scale. -/
def ordinal : Severity → Nat
  | unknown => 0
  | verbose => 1
  | information => 2
  | warning => 3
  | error => 4
  | critical => 5

/-- The name of a severity. -/
def label : Severity → String
  | unknown => "Unknown"
  | verbose => "Verbose"
  | information => "Information"
  | warning => "Warning"
  | error => "Error"
  | critical => "Critical"

/-- All severities, the lowest first. -/
def all : List Severity := [unknown, verbose, information, warning, error, critical]

/-- Comparison by height. -/
instance : Ord Severity := ⟨fun a b => compare a.ordinal b.ordinal⟩

/-- The higher of two severities. -/
def max (a b : Severity) : Severity := if a.ordinal ≤ b.ordinal then b else a

/-- Severities by their labels. -/
def variants : Decode.Variants Severity where
  plain := all.map fun s => (s.label, s)

/-- Reads a severity by its label. -/
def decode : Decode.DeepDecoder Severity := variants.decode

/-- A severity as its label. -/
def toJson (s : Severity) : Json.Value := .text s.label

end Severity

end LogOrigin
