/-!
# Decimal numerals

Reading an unsigned decimal numeral with an optional plus sign and an upper bound, and writing
numbers with a fixed number of places. What is written is handed on in parts.
-/

namespace LogOrigin.Text

/-- The value of a decimal digit. -/
def digit? (c : Char) : Option Nat :=
  if '0' ≤ c && c ≤ '9' then some (c.toNat - '0'.toNat) else none

/-- The digits that follow a number read so far. -/
def digitsFrom (n : Nat) : List Char → Option Nat
  | [] => some n
  | c :: rest => (digit? c).bind fun d => digitsFrom (10 * n + d) rest

/-- An unsigned decimal numeral, with an optional plus sign and at least one digit, of a value
below `bound`. -/
def readUnsigned (bound : Nat) (cs : List Char) : Option Nat :=
  let digits := match cs with
    | '+' :: rest => rest
    | _ => cs
  if digits.isEmpty then none else (digitsFrom 0 digits).filter (· < bound)

/-- A number padded with zeros on the left to at least `width` digits. -/
def padded (width n : Nat) : String :=
  let digits := toString n
  "".pushn '0' (width - digits.length) ++ digits

/-- Characters, each as a part of its own. -/
def characters (cs : List Char) : List String := cs.map String.singleton

/-- The parts of a padded number behind a mark: the mark and the zeros one by one, and the digits
behind them together. -/
def markedParts : List Char → List String
  | [] => []
  | mark :: cs =>
    characters (mark :: cs.takeWhile (· == '0')) ++ [String.ofList (cs.dropWhile (· == '0'))]

end LogOrigin.Text
