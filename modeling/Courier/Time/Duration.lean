import Courier.Decimal.Layout

namespace Courier

/-! Spans of time as whole seconds and nanoseconds, with the seconds held in a
64-bit word. Arithmetic that would leave the word stops at the longest span,
`2 ^ 64 - 1` seconds and `999999999` nanoseconds. -/

-- Powers of numbers are those of the core library, also where more algebra is
-- in scope; a literal exponent is given its type so that no default instance picks it.
attribute [local instance (high)] instPowNat

/-- A span of time: seconds and the nanoseconds below one second. -/
structure Duration where
  secs : Nat
  nanos : Nat
  deriving DecidableEq, Repr, Inhabited

namespace Duration

def nanosPerSecond : Nat := 1000000000

/-- The largest number of seconds a span holds. -/
def maxSecs : Nat := 2 ^ (64 : Nat) - 1

def ofSecs (secs : Nat) : Duration := ⟨secs, 0⟩

def longest : Duration := ⟨maxSecs, nanosPerSecond - 1⟩

def toNanos (d : Duration) : Nat := d.secs * nanosPerSecond + d.nanos

/-- The span of a number of nanoseconds, or the longest span when its seconds
do not fit the word. -/
def ofNanosSaturating (total : Nat) : Duration :=
  if maxSecs < total / nanosPerSecond then longest
  else ⟨total / nanosPerSecond, total % nanosPerSecond⟩

/-- The span of seconds and nanoseconds, where nanoseconds past a second carry
into the seconds; none when the seconds then do not fit the word. -/
def ofParts? (secs nanos : Nat) : Option Duration :=
  let total := secs + nanos / nanosPerSecond
  if maxSecs < total then none else some ⟨total, nanos % nanosPerSecond⟩

/-- A span taken `factor` times, stopping at the longest span. -/
def mulSaturating (d : Duration) (factor : Nat) : Duration :=
  ofNanosSaturating (d.toNanos * factor)

def min (a b : Duration) : Duration := if a.toNanos ≤ b.toNanos then a else b

def max (a b : Duration) : Duration := if b.toNanos < a.toNanos then a else b

def toMillis (d : Duration) : Nat := d.toNanos / 1000000

example : (ofSecs 10).mulSaturating 4 = ofSecs 40 := by decide
example : (Duration.mk 0 999999999).mulSaturating 2 = ⟨1, 999999998⟩ := by decide
example : (ofSecs (2 ^ 63)).mulSaturating 2 = longest := by decide

end Duration

end Courier
