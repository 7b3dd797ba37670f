import ContextVm.Core.Word
import Mathlib.Data.Rat.Floor

/-! Double-precision numbers, as far as they are compared and turned into words. -/

namespace ContextVm

/-- A double-precision number: a finite value, an infinity, or not a number. -/
inductive Double where
  | finite (value : ℚ)
  | infinite (negative : Bool)
  | nan
  deriving DecidableEq

namespace Double

/-- Whether a number is below another; what is not a number is never compared. -/
def lt : Double → Double → Bool
  | .nan, _ | _, .nan => false
  | .infinite negative, .infinite other => negative && !other
  | .infinite negative, .finite _ => negative
  | .finite _, .infinite other => !other
  | .finite value, .finite other => decide (value < other)

/-- The smaller of two numbers, or the one that is a number. -/
def min (one other : Double) : Double :=
  match one, other with
  | .nan, other => other
  | one, .nan => one
  | one, other => if other.lt one then other else one

/-- The larger of two numbers, or the one that is a number. -/
def max (one other : Double) : Double :=
  match one, other with
  | .nan, other => other
  | one, .nan => one
  | one, other => if one.lt other then other else one

/-- The whole part as a word, which ends at the limits of one. -/
def toU64 : Double → Nat
  | .nan => 0
  | .infinite negative => if negative then 0 else u64Max
  | .finite value => if value.floor.toNat ≤ u64Max then value.floor.toNat else u64Max

/-- Whatever is clamped to an interval is a number in it. -/
theorem max_min_finite (number : Double) {lower upper : ℚ} (ordered : lower ≤ upper) :
    ∃ value, (number.min (.finite upper)).max (.finite lower) = .finite value ∧
      lower ≤ value ∧ value ≤ upper := by
  cases number with
  | nan =>
    refine ⟨upper, ?_, ordered, le_refl upper⟩
    simp [min, max, lt, not_lt.mpr ordered]
  | infinite negative =>
    cases negative with
    | true => exact ⟨lower, rfl, le_refl lower, ordered⟩
    | false =>
      refine ⟨upper, ?_, ordered, le_refl upper⟩
      simp [min, max, lt, not_lt.mpr ordered]
  | finite value =>
    -- First it is brought down to the upper end, and then up to the lower one.
    by_cases above : upper < value
    · refine ⟨upper, ?_, ordered, le_refl upper⟩
      simp [min, max, lt, above, not_lt.mpr ordered]
    · by_cases below : value < lower
      · exact ⟨lower, by simp [min, max, lt, above, below], le_refl lower, ordered⟩
      · exact ⟨value, by simp [min, max, lt, above, below], not_lt.mp below, not_lt.mp above⟩

/-- The whole part of a number between two words lies between them. -/
theorem toU64_bounds {value : ℚ} {lower upper : Nat} (atLeast : (lower : ℚ) ≤ value)
    (atMost : value ≤ upper) (word : upper ≤ u64Max) :
    lower ≤ (finite value).toU64 ∧ (finite value).toU64 ≤ upper := by
  have low : (lower : ℤ) ≤ value.floor := Rat.le_floor_iff.mpr (by exact_mod_cast atLeast)
  have high : value.floor ≤ (upper : ℤ) := by
    have below : ((value.floor : ℤ) : ℚ) ≤ (upper : ℤ) :=
      le_trans (Rat.floor_le value) (by exact_mod_cast atMost)
    exact_mod_cast below
  simp only [toU64]
  split <;> omega

end Double

/-- The rounded operations on double-precision numbers, which are taken as given. -/
structure DoubleArithmetic where
  ofU64 : UInt64 → Double
  mul : Double → Double → Double
  powi : Double → Int → Double

end ContextVm
