import Courier.Settings
import Mathlib

namespace Courier

/-! # The retry backoff

The wait after a refused delivery doubles with each attempt from the shortest
wait and stops at the longest. Two words of fixed size stand in the way of the
plain law. The power of two is held in a 32-bit word that stops at its largest
value, so from the 33rd attempt on the factor is `2 ^ 32 - 1`, one less than the
power it stands for: there the wait is the shortest wait that many times, not
the next doubling, whenever the longest wait is long enough to show it. The
product of the shortest wait and the factor stops at the longest span a
duration holds; that never shows, since the longest wait is no longer and the
wait is cut to it first. -/

namespace Duration

/-- A span as the standard library holds one: its seconds fit their 64-bit word
and its nanoseconds stay below a second. -/
def Valid (d : Duration) : Prop := d.secs ≤ maxSecs ∧ d.nanos < nanosPerSecond

instance : DecidablePred Valid := fun d => inferInstanceAs (Decidable (d.secs ≤ maxSecs ∧ d.nanos < nanosPerSecond))

theorem toNanos_le_longest {d : Duration} (valid : d.Valid) : d.toNanos ≤ longest.toNanos := by
  obtain ⟨secs, nanos⟩ := valid
  simp only [toNanos, longest]
  unfold maxSecs nanosPerSecond at *
  omega

theorem toNanos_ofNanosSaturating (total : Nat) :
    (ofNanosSaturating total).toNanos = if maxSecs < total / nanosPerSecond then longest.toNanos else total := by
  unfold ofNanosSaturating
  split
  · rfl
  · exact Nat.div_add_mod' total nanosPerSecond

theorem toNanos_min (a b : Duration) : (a.min b).toNanos = Nat.min a.toNanos b.toNanos := by
  unfold min
  unfold Nat.min
  split <;> omega

theorem toNanos_max (a b : Duration) : (a.max b).toNanos = Nat.max a.toNanos b.toNanos := by
  unfold max
  unfold Nat.max
  split <;> omega

end Duration

/-- The factor of the wait is the power of two it stands for, cut to the largest
value of a 32-bit word. -/
theorem backoffFactor_eq (attempt : Nat) : backoffFactor attempt = Nat.min (2 ^ (attempt - 1)) (2 ^ 32 - 1) := by
  unfold backoffFactor
  split
  · next large =>
    have power : 2 ^ 32 ≤ 2 ^ (attempt - 1) := Nat.pow_le_pow_right (by decide) large
    unfold Nat.min
    omega
  · rfl

theorem backoffFactor_pos (attempt : Nat) : 0 < backoffFactor attempt := by
  rw [backoffFactor_eq]
  unfold Nat.min
  have power := Nat.one_le_two_pow (n := attempt - 1)
  omega

theorem backoffFactor_mono {attempt attempt' : Nat} (earlier : attempt ≤ attempt') :
    backoffFactor attempt ≤ backoffFactor attempt' := by
  rw [backoffFactor_eq, backoffFactor_eq]
  unfold Nat.min
  have power : 2 ^ (attempt - 1) ≤ 2 ^ (attempt' - 1) := Nat.pow_le_pow_right (by decide) (by omega)
  omega

namespace RetryBackoff

variable (backoff : RetryBackoff)

/-- The wait in nanoseconds is the shortest wait times the factor, cut to the
longest wait: the product's own stop at the longest span never shows. -/
theorem toNanos_delayAfter (ordered : backoff.min.toNanos ≤ backoff.max.toNanos) (valid : backoff.max.Valid)
    (attempt : Nat) :
    (backoff.delayAfter attempt).toNanos =
      Nat.min backoff.max.toNanos (backoff.min.toNanos * backoffFactor attempt) := by
  unfold delayAfter Duration.mulSaturating
  rw [Duration.toNanos_max, Duration.toNanos_min, Duration.toNanos_ofNanosSaturating]
  unfold Nat.min Nat.max
  have longest := Duration.toNanos_le_longest valid
  have atLeast : backoff.min.toNanos ≤ backoff.min.toNanos * backoffFactor attempt :=
    Nat.le_mul_of_pos_right _ (backoffFactor_pos attempt)
  split
  · -- a product past the longest span is past the longest wait too
    next past =>
    have beyond : Duration.longest.toNanos < backoff.min.toNanos * backoffFactor attempt := by
      have value : Duration.longest.toNanos =
          Duration.maxSecs * Duration.nanosPerSecond + (Duration.nanosPerSecond - 1) := rfl
      rw [value]
      unfold Duration.maxSecs Duration.nanosPerSecond at past ⊢
      omega
    omega
  · omega

theorem minimum_le_delayAfter (ordered : backoff.min.toNanos ≤ backoff.max.toNanos) (valid : backoff.max.Valid)
    (attempt : Nat) : backoff.min.toNanos ≤ (backoff.delayAfter attempt).toNanos := by
  rw [toNanos_delayAfter backoff ordered valid]
  have atLeast : backoff.min.toNanos ≤ backoff.min.toNanos * backoffFactor attempt :=
    Nat.le_mul_of_pos_right _ (backoffFactor_pos attempt)
  unfold Nat.min
  omega

theorem delayAfter_le_maximum (ordered : backoff.min.toNanos ≤ backoff.max.toNanos) (valid : backoff.max.Valid)
    (attempt : Nat) : (backoff.delayAfter attempt).toNanos ≤ backoff.max.toNanos := by
  rw [toNanos_delayAfter backoff ordered valid]
  unfold Nat.min
  omega

theorem delayAfter_mono (ordered : backoff.min.toNanos ≤ backoff.max.toNanos) (valid : backoff.max.Valid)
    {attempt attempt' : Nat} (earlier : attempt ≤ attempt') :
    (backoff.delayAfter attempt).toNanos ≤ (backoff.delayAfter attempt').toNanos := by
  rw [toNanos_delayAfter backoff ordered valid, toNanos_delayAfter backoff ordered valid]
  have scaled := Nat.mul_le_mul_left backoff.min.toNanos (backoffFactor_mono earlier)
  unfold Nat.min
  omega

/-- Up to the 32nd attempt the wait doubles, until it reaches the longest wait. -/
theorem delayAfter_succ (ordered : backoff.min.toNanos ≤ backoff.max.toNanos) (valid : backoff.max.Valid)
    {attempt : Nat} (first : 1 ≤ attempt) (small : attempt ≤ 31) :
    (backoff.delayAfter (attempt + 1)).toNanos =
      Nat.min backoff.max.toNanos (2 * (backoff.delayAfter attempt).toNanos) := by
  rw [toNanos_delayAfter backoff ordered valid, toNanos_delayAfter backoff ordered valid,
    backoffFactor_eq, backoffFactor_eq]
  have fits : 2 ^ (attempt + 1 - 1) ≤ 2 ^ 31 := Nat.pow_le_pow_right (by decide) (by omega)
  have doubled : 2 ^ (attempt + 1 - 1) = 2 * 2 ^ (attempt - 1) := by
    rw [show attempt + 1 - 1 = attempt - 1 + 1 by omega, Nat.pow_succ, Nat.mul_comm]
  rw [doubled] at fits ⊢
  unfold Nat.min
  rw [Nat.min_eq_left (show 2 * 2 ^ (attempt - 1) ≤ 2 ^ 32 - 1 by omega),
    Nat.min_eq_left (show 2 ^ (attempt - 1) ≤ 2 ^ 32 - 1 by omega)]
  have twice : backoff.min.toNanos * (2 * 2 ^ (attempt - 1)) = 2 * (backoff.min.toNanos * 2 ^ (attempt - 1)) := by
    rw [Nat.mul_left_comm]
  omega

/-- The wait is the shortest wait times the factor, cut to the longest wait, in
exact nanoseconds: it never falls, stays between the two bounds, and doubles up
to the 32nd attempt until it reaches the longest wait. -/
theorem delayAfter_doubles_within_bounds (ordered : backoff.min.toNanos ≤ backoff.max.toNanos)
    (valid : backoff.max.Valid) :
    (∀ attempt, (backoff.delayAfter attempt).toNanos =
      Nat.min backoff.max.toNanos (backoff.min.toNanos * Nat.min (2 ^ (attempt - 1)) (2 ^ 32 - 1))) ∧
    (∀ attempt attempt', attempt ≤ attempt' →
      (backoff.delayAfter attempt).toNanos ≤ (backoff.delayAfter attempt').toNanos) ∧
    (∀ attempt, backoff.min.toNanos ≤ (backoff.delayAfter attempt).toNanos ∧
      (backoff.delayAfter attempt).toNanos ≤ backoff.max.toNanos) ∧
    ∀ attempt, 1 ≤ attempt → attempt ≤ 31 →
      (backoff.delayAfter (attempt + 1)).toNanos =
        Nat.min backoff.max.toNanos (2 * (backoff.delayAfter attempt).toNanos) :=
  ⟨fun attempt => (backoff.toNanos_delayAfter ordered valid attempt).trans (by rw [backoffFactor_eq]),
    fun _ _ earlier => backoff.delayAfter_mono ordered valid earlier,
    fun attempt => ⟨backoff.minimum_le_delayAfter ordered valid attempt,
      backoff.delayAfter_le_maximum ordered valid attempt⟩,
    fun _ first small => backoff.delayAfter_succ ordered valid first small⟩

theorem standard_doubles_within_bounds :
    RetryBackoff.standard.min.toNanos ≤ RetryBackoff.standard.max.toNanos ∧ RetryBackoff.standard.max.Valid ∧
      (RetryBackoff.standard.delayAfter 3).toNanos =
        Nat.min standard.max.toNanos (standard.min.toNanos * Nat.min (2 ^ (3 - 1)) (2 ^ 32 - 1)) :=
  ⟨by decide, by decide, (delayAfter_doubles_within_bounds standard (by decide) (by decide)).1 3⟩

/-- From the 33rd attempt the factor is one short of its power of two: with a
shortest wait of one nanosecond and a longest of ten seconds, the wait after the
33rd attempt is `2 ^ 32 - 1` nanoseconds, where the doubling gives `2 ^ 32`. -/
theorem delayAfter_saturates_at_attempt_33 :
    (RetryBackoff.delayAfter ⟨⟨0, 1⟩, .ofSecs 10⟩ 33).toNanos = 4294967295 ∧
      Nat.min (Duration.ofSecs 10).toNanos ((⟨0, 1⟩ : Duration).toNanos * 2 ^ (33 - 1)) = 4294967296 := by
  decide

end RetryBackoff

end Courier
