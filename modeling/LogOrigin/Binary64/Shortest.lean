import LogOrigin.Binary64

/-!
# Shortest decimal text

A finite magnitude is written with the fewest decimal digits that read back as the same magnitude;
among those the nearest is taken. How the digits are laid out is a choice of the caller.
-/

namespace LogOrigin

namespace Binary64

/-- Which decimal exponents are written without an exponent part. -/
structure Layout where
  positional : Int → Bool

/-- The fraction `num / den` divided by `10 ^ k`. -/
def scaleTen (num den : Nat) (k : Int) : Nat × Nat :=
  if 0 ≤ k then (num, den * Nat.pow 10 k.toNat) else (num * Nat.pow 10 (-k).toNat, den)

/-- Whether `d * 10 ^ k` reads back as `x`: it lies between the midpoints to the neighbours of `x`,
where the midpoints belong to an even significand. All is compared in quarters of the last place. -/
def readsBack (x : Binary64) (d : Nat) (k : Int) : Bool :=
  let quarter : Binary64 := ⟨1, x.exponent - 2⟩
  let unit := quarter.ratio
  let value := scaleTen d 1 (-k)
  let here := value.1 * unit.2
  let quarters := value.2 * unit.1
  let above := 4 * x.significand + 2
  let below := 4 * x.significand -
    (if x.significand = Nat.pow 2 52 && leastExponent < x.exponent then 1 else 2)
  if x.significand % 2 = 0 then
    below * quarters ≤ here && here ≤ above * quarters
  else
    below * quarters < here && here < above * quarters

/-- The exponent of the leading decimal digit, searched downwards from `guess`. -/
def leadingExponent (num den : Nat) : Nat → Int → Int
  | 0, guess => guess
  | steps + 1, guess =>
    let scaled := scaleTen num den guess
    if scaled.2 ≤ scaled.1 then guess else leadingExponent num den steps (guess - 1)

/-- The digits on the grid of multiples of `10 ^ k` that read back as `x`, the nearer of the two
neighbours of `x` if both do. -/
def onGrid (x : Binary64) (k : Int) : Option Nat :=
  let scaled := scaleTen x.ratio.1 x.ratio.2 k
  let low := scaled.1 / scaled.2
  match readsBack x low k, readsBack x (low + 1) k with
  | true, true => some (nearest scaled.1 scaled.2)
  | true, false => some low
  | false, true => some (low + 1)
  | false, false => none

/-- The first grid with a hit, from coarse to fine. -/
def firstGrid (x : Binary64) : Nat → Int → Nat × Int
  | 0, k => (x.significand, k)
  | steps + 1, k =>
    match onGrid x k with
    | some d => (d, k)
    | none => firstGrid x steps (k - 1)

/-- The shortest decimal `d * 10 ^ k` that reads back as the magnitude. -/
def shortest (x : Binary64) : Nat × Int :=
  if x.significand = 0 then (0, 0)
  else firstGrid x 20 (leadingExponent x.ratio.1 x.ratio.2 700 310)

/-- Digits with the point after the first `point` of them, with zeros where digits are missing. -/
def withPoint (digits : String) (point : Int) : String :=
  let n := digits.length
  if point ≤ 0 then "0." ++ "".pushn '0' (-point).toNat ++ digits
  else if n ≤ point.toNat then digits ++ "".pushn '0' (point.toNat - n) ++ ".0"
  else String.ofList (digits.toList.take point.toNat) ++ "." ++
    String.ofList (digits.toList.drop point.toNat)

/-- Digits with a point after the first and an exponent part of at least two digits. -/
def withExponent (digits : String) (exponent : Int) : String :=
  let mantissa := match digits.toList with
    | [] => ""
    | [d] => String.singleton d
    | d :: rest => String.singleton d ++ "." ++ String.ofList rest
  let size := toString exponent.natAbs
  mantissa ++ "e" ++ (if exponent < 0 then "-" else "+") ++
    (if size.length < 2 then "0" ++ size else size)

/-- The text of a magnitude in the given layout. -/
def text (layout : Layout) (x : Binary64) : String :=
  let (d, k) := x.shortest
  if d = 0 then "0.0"
  else
    let digits := String.ofList ((toString d).toList.reverse.dropWhile (· == '0')).reverse
    let exponent : Int := k + (toString d).length - 1
    if layout.positional exponent then withPoint digits (exponent + 1)
    else withExponent digits exponent

end Binary64

/-- The text of a number in the given layout. -/
def Real64.text (layout : Binary64.Layout) : Real64 → String
  | .finite negative x => (if negative then "-" else "") ++ x.text layout
  | .infinite negative => if negative then "-inf" else "inf"
  | .undefined => "NaN"

end LogOrigin
