import ClusterAdmission.Proofs.Binary64
import ClusterAdmission.Quantity
import Mathlib.Algebra.Order.Field.Power
import Mathlib.Data.Rat.Cast.Order
import Mathlib.Tactic.Positivity

/-!
# The sign of a quantity

A quantity denotes an exact number (`Quantity.exact`), and its binary64 value has the sign of that
number unless it is "not a number" (`Quantity.sign?_value`). So a quantity whose value is not below
that of a positive one is positive, if the comparison decides it (`Quantity.not_lt_iff`).
-/

namespace ClusterAdmission

open Binary64 (Unsigned unsigned_ofRatio)

namespace QuantityScale

/-- The factor that a scale stands for. -/
def exact : QuantityScale → ℚ
  | .plain => 1
  | .suffix s => (s.power.1 : ℚ) ^ s.power.2
  | .powerOfTen e => 10 ^ e

theorem exact_pos (s : QuantityScale) : 0 < s.exact := by
  cases s with
  | plain => exact one_pos
  | suffix s =>
    have hbase : (0 : ℚ) < s.power.1 := by cases s <;> norm_num [QuantitySuffix.power]
    exact zpow_pos hbase _
  | powerOfTen e => exact zpow_pos (by norm_num) e

theorem unsigned_multiplier (s : QuantityScale) : s.multiplier.Unsigned := by
  cases s with
  | plain => exact unsigned_ofRatio 1 1
  | suffix s =>
    change s.multiplier.Unsigned
    unfold QuantitySuffix.multiplier
    split
    split <;> exact unsigned_ofRatio _ _
  | powerOfTen e => exact Unsigned.pow (unsigned_ofRatio 10 1) e

end QuantityScale

namespace Quantity

/-- The number that a quantity denotes. -/
def exact (q : Quantity) : ℚ :=
  (if q.negative then -(q.digits : ℚ) else q.digits) / 10 ^ q.places * q.scale.exact

variable {q minimum : Quantity}

theorem exact_pos_iff : 0 < q.exact ↔ q.negative = false ∧ q.digits ≠ 0 := by
  have hplaces : (0 : ℚ) < 10 ^ q.places := by positivity
  rw [exact, mul_pos_iff_of_pos_right q.scale.exact_pos, div_pos_iff_of_pos_right hplaces]
  cases hsign : q.negative with
  | false => simp [Nat.pos_iff_ne_zero]
  | true => simp

/-! ## Values -/

theorem sign?_value (h : q.value ≠ .nan) : q.value.sign? = some q.negative := by
  have hmultiplier : q.scale.multiplier ≠ .nan := by
    intro hnan
    rw [value, hnan] at h
    cases hnumber : q.number <;> rw [hnumber] at h <;> exact h rfl
  have hnumber : q.number.sign? = some q.negative := Binary64.sign?_ofRatio _ _ _
  have hsign : q.value.sign? = some (q.negative != false) :=
    (Binary64.sign?_mul hnumber (q.scale.unsigned_multiplier.sign?_eq hmultiplier)).resolve_left h
  rwa [Bool.bne_false] at hsign

theorem isZero_value (h : q.digits = 0) : q.value = .nan ∨ q.value.IsZero := by
  refine Binary64.isZero_mul ?_ q.scale.multiplier
  rw [number, h]
  exact Binary64.isZero_ofRatio_zero _ _

theorem sign?_value_of_exact_pos (h : 0 < q.exact) (hnan : q.value ≠ .nan) :
    q.value.sign? = some false := by
  rw [sign?_value hnan, (exact_pos_iff.1 h).1]

theorem exact_pos_of_value (hsign : q.value.sign? = some false) (hzero : ¬ q.value.IsZero) :
    0 < q.exact := by
  have hnan : q.value ≠ .nan := by
    intro hnan
    rw [hnan] at hsign
    cases hsign
  have hnegative : q.negative = false := by
    rw [sign?_value hnan] at hsign
    exact Option.some.inj hsign
  exact exact_pos_iff.2 ⟨hnegative, fun hdigits => (isZero_value hdigits).elim hnan hzero⟩

/-- A quantity passes for not being below a positive one if it is positive, and its value is not
below the other's, or if comparing the values says nothing. -/
theorem not_lt_iff (hminimum : 0 < minimum.exact) :
    q.value.lt minimum.value = false ↔
      q.value.Undecided minimum.value ∨ 0 < q.exact ∧ q.value.lt minimum.value = false := by
  constructor
  · intro hlt
    by_cases hundecided : q.value.Undecided minimum.value
    · exact .inl hundecided
    · have hnan : minimum.value ≠ .nan := fun hnan => hundecided (.inr (.inl hnan))
      have hsign := sign?_value_of_exact_pos hminimum hnan
      obtain ⟨hpositive, hzero⟩ := Binary64.positive_of_not_lt hsign hundecided hlt
      exact .inr ⟨exact_pos_of_value hpositive hzero, hlt⟩
  · rintro (hundecided | ⟨-, hlt⟩)
    · exact Binary64.not_lt_of_undecided hundecided
    · exact hlt

end Quantity

end ClusterAdmission
