/-!
# Numbers of the binary64 format

A magnitude is a natural significand below `2 ^ 53` times a power of two. Ratios of natural numbers
are rounded to the nearest magnitude, ties to the even significand; products and quotients are the
roundings of the exact results.
-/

namespace LogOrigin

/-- The nonnegative number `significand * 2 ^ exponent`. -/
structure Binary64 where
  significand : Nat
  exponent : Int
  deriving DecidableEq, Repr

namespace Binary64

/-- The exponent of the smallest positive magnitude. -/
def leastExponent : Int := -1074

/-- The exponent of the largest finite magnitudes. -/
def greatestExponent : Int := 971

/-- Zero. -/
def zero : Binary64 := ⟨0, leastExponent⟩

/-- The fraction `num / den` divided by `2 ^ e`. -/
def scale (num den : Nat) (e : Int) : Nat × Nat :=
  if 0 ≤ e then (num, den * Nat.pow 2 e.toNat) else (num * Nat.pow 2 (-e).toNat, den)

/-- The nearest natural number to `num / den`, a half going to the even neighbour. -/
def nearest (num den : Nat) : Nat :=
  let quotient := num / den
  let twice := 2 * (num % den)
  if den < twice || (twice == den && quotient % 2 == 1) then quotient + 1 else quotient

/-- The magnitude nearest to `num / den`, or nothing when that lies beyond the finite ones. -/
def ofRatio (num den : Nat) : Option Binary64 :=
  if num = 0 then some zero
  else
    let estimate : Int := (num.log2 : Int) - den.log2 - 52
    let small := scale num den estimate
    let normal := if small.1 / small.2 < Nat.pow 2 52 then estimate - 1 else estimate
    let e := max normal leastExponent
    let m := nearest (scale num den e).1 (scale num den e).2
    let rounded : Binary64 := if m = Nat.pow 2 53 then ⟨Nat.pow 2 52, e + 1⟩ else ⟨m, e⟩
    if greatestExponent < rounded.exponent then none else some rounded

/-- The magnitude nearest to a natural number. -/
def ofNat (n : Nat) : Option Binary64 :=
  ofRatio n 1

/-- A magnitude as a fraction of natural numbers. -/
def ratio (x : Binary64) : Nat × Nat :=
  if 0 ≤ x.exponent then (x.significand * Nat.pow 2 x.exponent.toNat, 1)
  else (x.significand, Nat.pow 2 (-x.exponent).toNat)

/-- The rounded product. -/
def mul (x y : Binary64) : Option Binary64 :=
  ofRatio (x.ratio.1 * y.ratio.1) (x.ratio.2 * y.ratio.2)

/-- The rounded quotient. -/
def div (x y : Binary64) : Option Binary64 :=
  ofRatio (x.ratio.1 * y.ratio.2) (x.ratio.2 * y.ratio.1)

/-- The magnitude nearest to a power of ten. -/
def powerOfTen (n : Nat) : Option Binary64 :=
  ofNat (Nat.pow 10 n)

/-- Dividing by the largest power of ten until the exponent is in reach; zero stays zero. -/
def shrink : Nat → Binary64 → Nat → Option Binary64
  | 0, x, _ => some x
  | steps + 1, x, e =>
    if e ≤ 308 then (powerOfTen e).bind x.div
    else if x.significand = 0 then some x
    else ((powerOfTen 308).bind x.div).bind fun y => shrink steps y (e - 308)

/-- The number `significand * 10 ^ exponent`, by one rounding of the significand and one of the
product, or of each quotient by a power of ten that the format can hold. -/
def ofDecimal (significand : Nat) (exponent : Int) : Option Binary64 :=
  (ofNat significand).bind fun x =>
    if 0 ≤ exponent then
      if exponent ≤ 308 then (powerOfTen exponent.toNat).bind x.mul
      else if x.significand = 0 then some x
      else none
    else shrink ((-exponent).toNat / 308 + 1) x (-exponent).toNat

end Binary64

/-- A number of the format: finite with its sign, infinite, or undefined. -/
inductive Real64 where
  | finite (negative : Bool) (magnitude : Binary64)
  | infinite (negative : Bool)
  | undefined
  deriving DecidableEq, Repr

end LogOrigin
