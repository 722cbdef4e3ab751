import Courier.Decimal.Binary64

namespace Courier

/-! The shortest decimal that reads back as a given binary64 number.

A nonzero number `v = m * 2 ^ q` owns the interval of reals that round to it:
halfway to each neighbour, the ends included when `m` is even (ties go to the
even significand). For one digit, then two, and so on up to seventeen, the two
points of the decimal grid around `v` are tested against that interval; the
first grid with a point inside wins, and of two points inside, the nearer one,
a tie going to the even digit string. Seventeen digits always suffice. -/

-- Powers of numbers are those of the core library, also where more algebra is
-- in scope; a literal exponent is given its type so that no default instance picks it.
attribute [local instance (high)] instPowNat

/-- A decimal number `digits * 10 ^ exponent`. -/
structure Decimal where
  digits : Nat
  exponent : Int
  deriving DecidableEq, Repr

namespace Decimal

/-- Compare `c * 10 ^ k` with `x * 2 ^ b`, exactly. -/
def compareScaled (c : Nat) (k : Int) (x : Nat) (b : Int) : Ordering :=
  let left := c * 10 ^ k.toNat * 2 ^ (-b).toNat
  let right := x * 2 ^ b.toNat * 10 ^ (-k).toNat
  compare left right

/-- Drop trailing zero digits, raising the exponent to match. -/
def normalize (d : Decimal) : Decimal :=
  go d.digits d.exponent d.digits
where
  go (c : Nat) (k : Int) : Nat → Decimal
    | 0 => ⟨c, k⟩
    | fuel + 1 => if c ≠ 0 ∧ c % 10 = 0 then go (c / 10) (k + 1) fuel else ⟨c, k⟩

/-- The number of decimal digits of a positive number. -/
def digitCount (n : Nat) : Nat := (Nat.toDigits 10 n).length

end Decimal

namespace Binary64

/-- The interval of reals that round to a nonzero number, scaled by
`2 ^ (exponent - 2)`: its low end, the number itself, its high end, and whether
the ends belong to it. -/
structure RoundingInterval where
  low : Nat
  center : Nat
  high : Nat
  scale : Int
  closed : Bool

/-- The rounding interval of a number. The step below is half as wide at the
bottom of a binade, where the exponent changes. -/
def roundingInterval (x : Binary64) : RoundingInterval :=
  let m := x.significand
  let lowGap := if x.fraction = 0 ∧ 1 < x.biased then 1 else 2
  { low := 4 * m - lowGap, center := 4 * m, high := 4 * m + 2,
    scale := x.exponent - 2, closed := m % 2 == 0 }

/-- Whether the decimal `c * 10 ^ k` lies in the rounding interval. -/
def RoundingInterval.contains (r : RoundingInterval) (c : Nat) (k : Int) : Bool :=
  let aboveLow := Decimal.compareScaled c k r.low r.scale
  let belowHigh := Decimal.compareScaled c k r.high r.scale
  (aboveLow == .gt || (r.closed && aboveLow == .eq)) &&
    (belowHigh == .lt || (r.closed && belowHigh == .eq))

/-- The decimal exponent of the leading digit of a nonzero number: the `e`
with `10 ^ e ≤ |x| < 10 ^ (e + 1)`. -/
def decimalExponent (x : Binary64) : Int :=
  let m := x.significand
  let q := x.exponent
  let binary : Int := (m.log2 : Int) + q
  let guess : Int := Int.fdiv (binary * 30103) 100000
  let candidates : List Int := [guess + 2, guess + 1, guess, guess - 1, guess - 2]
  (candidates.find? fun e => Decimal.compareScaled 1 e m q != .gt).getD guess

/-- The two decimal neighbours of a number on the grid of step `10 ^ k`: the
digits below, the remainder over the step, and the step as a denominator. -/
def gridNeighbours (x : Binary64) (k : Int) : Nat × Nat × Nat :=
  let m := x.significand
  let q := x.exponent
  let num := m * 2 ^ q.toNat * 10 ^ (-k).toNat
  let den := 2 ^ (-q).toNat * 10 ^ k.toNat
  (num / den, num % den, den)

/-- The decimal with `count` significant digits that reads back as the number,
if one exists; the nearer of two, a tie going to the even one. -/
def decimalWithDigits? (x : Binary64) (count : Nat) : Option Decimal :=
  let r := x.roundingInterval
  let k := x.decimalExponent - count + 1
  let (below, remainder, step) := x.gridNeighbours k
  if remainder = 0 then some ⟨below, k⟩ else
  let lowIn := r.contains below k
  let highIn := r.contains (below + 1) k
  match lowIn, highIn with
  | true, true =>
    if 2 * remainder < step then some ⟨below, k⟩
    else if 2 * remainder > step then some ⟨below + 1, k⟩
    else if below % 2 = 0 then some ⟨below, k⟩ else some ⟨below + 1, k⟩
  | true, false => some ⟨below, k⟩
  | false, true => some ⟨below + 1, k⟩
  | false, false => none

/-- The shortest decimal that reads back as the magnitude of a nonzero number,
without trailing zero digits. -/
def shortestDecimal (x : Binary64) : Decimal :=
  let found := (List.range 17).findSome? fun n => x.decimalWithDigits? (n + 1)
  -- seventeen digits always read back; the fallback is never taken
  (found.getD ⟨x.significand, 0⟩).normalize

example : (⟨false, 1023, 0⟩ : Binary64).shortestDecimal = ⟨1, 0⟩ := by decide
example : (⟨false, 1019, 2702159776422298⟩ : Binary64).shortestDecimal = ⟨1, -1⟩ := by decide

end Binary64

end Courier
