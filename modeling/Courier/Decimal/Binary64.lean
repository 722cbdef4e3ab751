namespace Courier

/-! Finite binary64 numbers (IEEE 754 doubles) in exact arithmetic. A number is
kept as its three fields; its value is a rational, and every operation rounds
an exact rational result to the nearest number, ties to the even significand.
Nothing here depends on a floating-point unit, so each result is a function of
the inputs that proofs can unfold. -/

-- Powers of numbers are those of the core library, also where more algebra is
-- in scope; a literal exponent is given its type so that no default instance picks it.
attribute [local instance (high)] instPowNat

/-- A finite binary64 number: sign, biased exponent and fraction field. A biased
exponent of zero marks zero and the subnormal numbers. -/
structure Binary64 where
  negative : Bool
  biased : Nat
  fraction : Nat
  deriving DecidableEq, Repr, Inhabited

namespace Binary64

def fractionBits : Nat := 52

/-- The binary exponent of the least subnormal step. -/
def minExponent : Int := -1074

def zero (negative : Bool) : Binary64 := ⟨negative, 0, 0⟩

/-- The integer significand: the fraction with its hidden leading bit. -/
def significand (x : Binary64) : Nat :=
  if x.biased = 0 then x.fraction else 2 ^ fractionBits + x.fraction

/-- The binary exponent of the significand's last bit: the value is
`significand * 2 ^ exponent`. -/
def exponent (x : Binary64) : Int :=
  if x.biased = 0 then minExponent else (x.biased : Int) - 1075

/-- Whether the number is zero of either sign. -/
def isZero (x : Binary64) : Bool := x.biased == 0 && x.fraction == 0

def neg (x : Binary64) : Binary64 := { x with negative := !x.negative }

def magnitude (x : Binary64) : Nat × Nat :=
  let e := x.exponent
  if 0 ≤ e then (x.significand * 2 ^ e.toNat, 1) else (x.significand, 2 ^ (-e).toNat)

/-- Compare `num / den` with `2 ^ k`. -/
def compareWithPowerOfTwo (num den : Nat) (k : Int) : Ordering :=
  if 0 ≤ k then compare num (den * 2 ^ k.toNat) else compare (num * 2 ^ (-k).toNat) den

/-- The floor of the binary logarithm of a positive fraction. -/
def log2Floor (num den : Nat) : Int :=
  let guess : Int := (num.log2 : Int) - (den.log2 : Int)
  if compareWithPowerOfTwo num den guess == .lt then guess - 1 else guess

/-- Divide `num` by `den * 2 ^ e` and round to the nearest integer, ties to even. -/
def roundScaled (num den : Nat) (e : Int) : Nat :=
  let (top, bottom) :=
    if 0 ≤ e then (num, den * 2 ^ e.toNat) else (num * 2 ^ (-e).toNat, den)
  let quotient := top / bottom
  let remainder := top % bottom
  if 2 * remainder > bottom || (2 * remainder == bottom && quotient % 2 == 1) then
    quotient + 1
  else
    quotient

/-- The nearest binary64 number to `num / den` with the given sign, ties to the
even significand; `none` when the magnitude rounds beyond the largest finite
number. -/
def ofFraction? (negative : Bool) (num den : Nat) : Option Binary64 :=
  if num = 0 ∨ den = 0 then some (zero negative) else
  let e := max (log2Floor num den - 52) minExponent
  let m := roundScaled num den e
  -- a carry out of the significand moves to the next binade
  let (m, e) := if m = 2 ^ (53 : Nat) then (2 ^ (52 : Nat), e + 1) else (m, e)
  if m < 2 ^ (52 : Nat) then some ⟨negative, 0, m⟩
  else
    let biased := e + 1075
    if 2047 ≤ biased then none else some ⟨negative, biased.toNat, m - 2 ^ (52 : Nat)⟩

/-- The nearest binary64 number to a natural number. -/
def ofNat? (n : Nat) : Option Binary64 := ofFraction? false n 1

/-- Exact product, rounded to nearest; `none` on overflow. -/
def mul? (x y : Binary64) : Option Binary64 :=
  let (a, b) := x.magnitude
  let (c, d) := y.magnitude
  ofFraction? (x.negative != y.negative) (a * c) (b * d)

/-- Exact quotient, rounded to nearest; `none` on overflow or a zero divisor. -/
def div? (x y : Binary64) : Option Binary64 :=
  if y.isZero then none else
  let (a, b) := x.magnitude
  let (c, d) := y.magnitude
  ofFraction? (x.negative != y.negative) (a * d) (b * c)

/-- The powers of ten `10 ^ k` rounded to binary64, for `k` up to 308. -/
def powerOfTen (k : Nat) : Binary64 :=
  (ofFraction? false (10 ^ k) 1).getD (zero false)

example : (ofNat? 1) = some ⟨false, 1023, 0⟩ := by decide
example : (ofFraction? false 3 2) = some ⟨false, 1023, 2 ^ 51⟩ := by decide
example : (ofFraction? true 1 3) = some ⟨true, 1021, 1501199875790165⟩ := by decide

end Binary64

end Courier
