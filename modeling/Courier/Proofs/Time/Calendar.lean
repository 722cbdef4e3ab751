import Mathlib.Tactic.IntervalCases
import Courier.Time.Instant

namespace Courier

/-! The day count of the calendar undoes the calendar day of a count: every
integer is a day, and reading it as year, month and day and counting again
gives it back. The arithmetic follows the eras of 400 years (146097 days) that
both directions cut the count into. -/

namespace CivilDate

section Era

/- A day of an era, counted from the first of March of its first year. -/
variable {doe : Int} (low : 0 ≤ doe) (high : doe < 146097)
include low high

theorem yearOfEra_bounds :
    0 ≤ (doe - doe / 1460 + doe / 36524 - doe / 146096) / 365 ∧
      (doe - doe / 1460 + doe / 36524 - doe / 146096) / 365 ≤ 399 := by
  omega

/-- The century of the year of an era is the number of whole centuries of days
before the day. -/
theorem century_yearOfEra :
    (doe - doe / 1460 + doe / 36524 - doe / 146096) / 365 / 100 = doe / 36524 - doe / 146096 := by
  obtain ⟨f, century⟩ : ∃ f, doe / 36524 = f := ⟨_, rfl⟩
  have range : 0 ≤ f ∧ f ≤ 4 := by omega
  obtain ⟨flo, fhi⟩ := range
  rw [century]
  -- omega cannot relate the nested quotients at once; one century at a time it can
  interval_cases f <;> omega

theorem dayOfYear_bounds :
    let yoe := (doe - doe / 1460 + doe / 36524 - doe / 146096) / 365
    0 ≤ doe - (365 * yoe + yoe / 4 - yoe / 100) ∧ doe - (365 * yoe + yoe / 4 - yoe / 100) ≤ 365 := by
  intro yoe
  have century := century_yearOfEra low high
  have quadrennia : yoe / 4 ≤ doe / 1460 ∧ doe / 1460 ≤ yoe / 4 + 1 := by omega
  omega

end Era

/-- Counting the days to the calendar day of a count gives the count back. -/
@[simp] theorem toDays_ofDays (d : Int) : (ofDays d).toDays = d := by
  have low : 0 ≤ d + 719468 - (d + 719468) / 146097 * 146097 := by omega
  have high : d + 719468 - (d + 719468) / 146097 * 146097 < 146097 := by omega
  have years := yearOfEra_bounds low high
  have days := dayOfYear_bounds low high
  simp only [ofDays, toDays, Int.fdiv_eq_ediv_of_nonneg _ (by decide : (0 : Int) ≤ 146097),
    Int.fdiv_eq_ediv_of_nonneg _ (by decide : (0 : Int) ≤ 400)] at years days ⊢
  generalize (d + 719468) / 146097 = era at *
  generalize hdoe : d + 719468 - era * 146097 = doe at *
  generalize (doe - doe / 1460 + doe / 36524 - doe / 146096) / 365 = yoe at *
  generalize hdoy : doe - (365 * yoe + yoe / 4 - yoe / 100) = doy at *
  generalize hmp : (5 * doy + 2) / 153 = mp
  have mpBounds : 0 ≤ mp ∧ mp ≤ 11 := by omega
  have day : (((doy - (153 * mp + 2) / 5 + 1).toNat : Nat) : Int) = doy - (153 * mp + 2) / 5 + 1 :=
    Int.toNat_of_nonneg (by omega)
  have sameEra : (yoe + era * 400) / 400 = era := by omega
  -- months from March to December lie in the year of the era; January and
  -- February in the next one
  by_cases spring : mp < 10
  · have month : (((mp + 3).toNat : Nat) : Int) = mp + 3 := Int.toNat_of_nonneg (by omega)
    have late : ¬ (mp + 3).toNat ≤ 2 := by omega
    have late' : ¬ mp + 3 ≤ 2 := by omega
    have shifted : 2 < mp + 3 := by omega
    simp only [spring, if_true, late, late', if_false, month, shifted, Int.add_zero, day, sameEra,
      Int.add_sub_cancel]
    omega
  · have month : (((mp - 9).toNat : Nat) : Int) = mp - 9 := Int.toNat_of_nonneg (by omega)
    have early : (mp - 9).toNat ≤ 2 := by omega
    have early' : mp - 9 ≤ 2 := by omega
    have shifted : ¬ 2 < mp - 9 := by omega
    simp only [spring, if_false, early, early', if_true, month, shifted, day, Int.add_sub_cancel, sameEra]
    omega

example : (ofDays (-719468)).toDays = -719468 := by decide

/-- A valid date names a month of the year and a day of at most 31. -/
theorem isValid_ranges {date : CivilDate} (valid : date.isValid = true) :
    (minYear ≤ date.year ∧ date.year ≤ maxYear) ∧ (1 ≤ date.month ∧ date.month ≤ 12) ∧
      (1 ≤ date.day ∧ date.day ≤ 31) := by
  have longest : daysInMonth date.year date.month ≤ 31 := by
    unfold daysInMonth
    split <;> (try split) <;> decide
  simp only [isValid, Bool.and_eq_true, decide_eq_true_eq] at valid
  omega

end CivilDate

end Courier
