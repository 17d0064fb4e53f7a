import Mathlib.Algebra.Order.Group.Int
import Mathlib.Algebra.Order.Ring.Int
import Mathlib.Tactic.Linarith

/-!
# Rescaling with rounding

`value * multiplier / divisor` rounded to the nearest integer, halves away from
zero: it is within half a unit of the exact quotient, and it does not decrease
where the value does not.
-/

namespace RoundedRescale

set_option autoImplicit false

/-- The quotient of a value that is not negative. -/
def roundedUp (value multiplier divisor : Int) : Int :=
  (value * multiplier + divisor / 2) / divisor

def rescale (value multiplier divisor : Int) : Int :=
  if value < 0 then -roundedUp (-value) multiplier divisor
  else roundedUp value multiplier divisor

section Nearest

variable {multiplier divisor : Int}

theorem rounded_up_near (value : Int) (positive : 0 < divisor) :
    2 * (value * multiplier) - divisor < 2 * (roundedUp value multiplier divisor * divisor) + 1 ∧
      2 * (roundedUp value multiplier divisor * divisor) ≤ 2 * (value * multiplier) + divisor := by
  unfold roundedUp
  have quotient := Int.mul_ediv_add_emod (value * multiplier + divisor / 2) divisor
  have small := Int.emod_lt_of_pos (value * multiplier + divisor / 2) positive
  have nonneg := Int.emod_nonneg (value * multiplier + divisor / 2) (ne_of_gt positive)
  rw [Int.mul_comm] at quotient
  constructor
  · omega
  · omega

theorem rescale_near (value : Int) (positive : 0 < divisor) :
    2 * |rescale value multiplier divisor * divisor - value * multiplier| ≤ divisor := by
  unfold rescale
  split_ifs with negative
  · rcases @rounded_up_near multiplier divisor (-value) positive with ⟨below, above⟩
    rw [Int.neg_mul] at below above
    rw [Int.neg_mul]
    rcases abs_cases (-(roundedUp (-value) multiplier divisor * divisor) - value * multiplier) with
      ⟨same, _⟩ | ⟨same, _⟩
    · rw [same]
      omega
    · rw [same]
      omega
  · rcases @rounded_up_near multiplier divisor value positive with ⟨below, above⟩
    rcases abs_cases (roundedUp value multiplier divisor * divisor - value * multiplier) with
      ⟨same, _⟩ | ⟨same, _⟩
    · rw [same]
      omega
    · rw [same]
      omega

theorem rounded_up_mono {lower upper : Int} (ordered : lower ≤ upper) (nonneg : 0 ≤ multiplier)
    (positive : 0 < divisor) :
    roundedUp lower multiplier divisor ≤ roundedUp upper multiplier divisor := by
  unfold roundedUp
  have scaled := Int.mul_le_mul_of_nonneg_right ordered nonneg
  exact Int.ediv_le_ediv positive (by omega)

theorem rounded_up_nonneg {value : Int} (nonneg : 0 ≤ value) (multiplierNonneg : 0 ≤ multiplier)
    (positive : 0 < divisor) : 0 ≤ roundedUp value multiplier divisor := by
  unfold roundedUp
  have product := Int.mul_nonneg nonneg multiplierNonneg
  exact Int.ediv_nonneg (by omega) (le_of_lt positive)

theorem rescale_mono {lower upper : Int} (ordered : lower ≤ upper) (nonneg : 0 ≤ multiplier)
    (positive : 0 < divisor) :
    rescale lower multiplier divisor ≤ rescale upper multiplier divisor := by
  unfold rescale
  split_ifs with lowerNegative upperNegative upperNegative
  · have flipped := rounded_up_mono (Int.neg_le_neg ordered) nonneg positive
    omega
  · have low := @rounded_up_nonneg multiplier divisor (-lower) (by omega) nonneg positive
    have high := @rounded_up_nonneg multiplier divisor upper (by omega) nonneg positive
    omega
  · omega
  · exact rounded_up_mono ordered nonneg positive

/-- A step of at most one unit moves the rounded quotient by at most one. -/
theorem rescale_step {value added : Int} (nonneg : 0 ≤ value) (addedNonneg : 0 ≤ added)
    (small : added * multiplier ≤ divisor) (positive : 0 < divisor) :
    rescale (value + added) multiplier divisor ≤ rescale value multiplier divisor + 1 := by
  unfold rescale
  rw [if_neg (by omega), if_neg (by omega)]
  unfold roundedUp
  have shifted : (value * multiplier + divisor / 2) / divisor + 1 =
      (value * multiplier + divisor / 2 + divisor) / divisor := by
    rw [Int.add_ediv_of_dvd_right (dvd_refl divisor), Int.ediv_self (ne_of_gt positive)]
  rw [shifted]
  apply Int.ediv_le_ediv positive
  rw [Int.add_mul]
  omega

end Nearest

end RoundedRescale
