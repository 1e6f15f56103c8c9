import Invoicing.Proofs.Decimal.Value

/-!
# One decimal for each value

A value can be written at many scales, so two decimals of one value may differ.  Two operations
choose one of them by the value alone:

* `Decimal.normalized` takes the fewest places (`Decimal.normalized_eq_iff`);
* `Decimal.extendTo` takes as many places as are asked for, or as many as there is room for
  (`Decimal.extendTo_eq_of_value_eq`).

Both proofs compare scales.  If one of two results had a place more than the other, its digits would
be those of the other with a zero behind them (`Decimal.magnitude_eq_of_value_eq`); but the fewest
places do not end in a zero, and where places are missing there was no room for one.
-/

namespace Invoicing.Decimal

variable {decimal first second : Decimal} {places : ℕ}

/-! ## The same value at two scales -/

/-- The same value with more places has more zeros at the end of its digits. -/
theorem magnitude_eq_of_value_eq (hvalue : first.value = second.value)
    (hscale : first.scale ≤ second.scale) :
    second.magnitude = first.magnitude * 10 ^ (second.scale - first.scale) := by
  have hsame := value_eq_iff.mp hvalue
  rw [sameValue, beq_iff_eq] at hsame
  have hdigits : first.magnitude * 10 ^ second.scale = second.magnitude * 10 ^ first.scale := by
    have habs := congrArg Int.natAbs hsame
    simpa [Int.natAbs_mul, Int.natAbs_pow] using habs
  rw [← Nat.sub_add_cancel hscale, Nat.pow_add, ← Nat.mul_assoc] at hdigits
  exact (Nat.eq_of_mul_eq_mul_right (Nat.pow_pos (by decide)) hdigits).symm

/-- A place more is a zero more. -/
theorem exists_magnitude_eq_mul_ten (hvalue : first.value = second.value)
    (hscale : first.scale < second.scale) :
    ∃ count, second.magnitude = first.magnitude * 10 ^ count * 10 := by
  refine ⟨second.scale - first.scale - 1, ?_⟩
  rw [magnitude_eq_of_value_eq hvalue hscale.le, Nat.mul_assoc, ← Nat.pow_succ]
  congr 2
  omega

/-- A decimal is determined by its value and its scale, unless it is a zero with a sign. -/
theorem eq_of_value_eq (hvalue : first.value = second.value) (hscale : first.scale = second.scale)
    (hfirst : first.negative → first.magnitude ≠ 0)
    (hsecond : second.negative → second.magnitude ≠ 0) : first = second := by
  have hcoefficient : first.coefficient = second.coefficient := by
    rw [value, value, hscale, div_left_inj' (ten_pow_pos _).ne'] at hvalue
    exact_mod_cast hvalue
  have hof := of?_coefficient_scale hfirst
  rw [hcoefficient, hscale, of?_coefficient_scale hsecond] at hof
  exact (Option.some.inj hof).symm

/-- A minus sign that is not in front of a zero says that the value is negative. -/
theorem negative_iff (hsign : decimal.negative → decimal.magnitude ≠ 0) :
    decimal.negative ↔ decimal.value < 0 := by
  rw [← isNegative_iff, isNegative, decide_eq_true_iff, coefficient]
  constructor
  · intro hnegative
    have hne := hsign hnegative
    rw [if_pos hnegative]
    omega
  · intro hneg
    by_contra hnonnegative
    rw [if_neg hnonnegative] at hneg
    omega

/-! ## The fewest places -/

@[simp] theorem value_normalized (decimal : Decimal) : decimal.normalized.value = decimal.value :=
  value_eq_iff.mpr (sameValue_normalized decimal)

theorem scale_normalized_le (decimal : Decimal) : decimal.normalized.scale ≤ decimal.scale :=
  (stripZeros_le decimal.scale decimal.magnitude).2

theorem stripZeros_mod_ten (scale magnitude : ℕ) :
    (stripZeros scale magnitude).2 = 0 ∨ (stripZeros scale magnitude).1 % 10 ≠ 0 := by
  fun_induction stripZeros scale magnitude with
  | case1 magnitude => exact .inl rfl
  | case2 magnitude scale hzero ih => exact ih
  | case3 magnitude scale hzero => exact .inr hzero

/-- The last place that is left is no zero. -/
theorem magnitude_normalized_mod_ten (hscale : decimal.normalized.scale ≠ 0) :
    decimal.normalized.magnitude % 10 ≠ 0 :=
  (stripZeros_mod_ten decimal.scale decimal.magnitude).resolve_left hscale

theorem magnitude_normalized_ne_zero (h : decimal.normalized.negative) :
    decimal.normalized.magnitude ≠ 0 := by
  have hzero : ¬ decimal.isZero := by
    simp only [normalized, Bool.and_eq_true, Bool.not_eq_true'] at h
    simp [h.2]
  rwa [← value_eq_zero_iff, ← value_normalized, value_eq_zero_iff, isZero, beq_iff_eq] at hzero

theorem scale_normalized_le_of_value_eq (hvalue : first.value = second.value) :
    first.normalized.scale ≤ second.normalized.scale := by
  by_contra hlt
  have hmore : second.normalized.scale < first.normalized.scale := Nat.lt_of_not_le hlt
  obtain ⟨count, hcount⟩ := exists_magnitude_eq_mul_ten
    (by rw [value_normalized, value_normalized, hvalue]) hmore
  have hlast : first.normalized.magnitude % 10 ≠ 0 := magnitude_normalized_mod_ten (by omega)
  omega

/-- Decimals of one value are the same one when they have the fewest places. -/
theorem normalized_eq_iff : first.normalized = second.normalized ↔ first.value = second.value := by
  constructor
  · intro hsame
    rw [← value_normalized first, hsame, value_normalized]
  · intro hvalue
    have hscale := (scale_normalized_le_of_value_eq hvalue).antisymm
      (scale_normalized_le_of_value_eq hvalue.symm)
    exact eq_of_value_eq (by rw [value_normalized, value_normalized, hvalue]) hscale
      magnitude_normalized_ne_zero magnitude_normalized_ne_zero

/-! ## As many places as there is room for -/

theorem negative_extendTo (places : ℕ) (decimal : Decimal) :
    (decimal.extendTo places).negative = decimal.negative := by
  obtain ⟨added, -, hnegative, -⟩ := extendTo_spec places decimal
  exact hnegative

theorem scale_extendTo_le (hscale : decimal.scale ≤ places) :
    (decimal.extendTo places).scale ≤ places := by
  obtain ⟨added, hle, -, -, hadded, -⟩ := extendTo_spec places decimal
  omega

/-- Where places are missing, there is no room for a digit more. -/
theorem magnitudeLimit_le_of_scale_extendTo_ne (hplaces : places ≤ maxScale)
    (hmissing : (decimal.extendTo places).scale < places) :
    magnitudeLimit ≤ (decimal.extendTo places).magnitude * 10 := by
  obtain ⟨added, hle, -, hmagnitude, hadded, hstop⟩ := extendTo_spec places decimal
  rw [hmagnitude]
  omega

theorem scale_extendTo_le_of_value_eq (hplaces : places ≤ maxScale) (hscale : first.scale ≤ places)
    (hvalue : first.value = second.value) :
    (first.extendTo places).scale ≤ (second.extendTo places).scale := by
  by_contra hlt
  have hmore : (second.extendTo places).scale < (first.extendTo places).scale :=
    Nat.lt_of_not_le hlt
  obtain ⟨count, hcount⟩ := exists_magnitude_eq_mul_ten
    (by rw [value_extendTo, value_extendTo, hvalue]) hmore
  have hroom := magnitudeLimit_le_of_scale_extendTo_ne hplaces
    (hmore.trans_le (scale_extendTo_le hscale))
  have hpos : 0 < 10 ^ count := Nat.pow_pos (by decide)
  have hle : (second.extendTo places).magnitude ≤ (second.extendTo places).magnitude * 10 ^ count :=
    Nat.le_mul_of_pos_right _ hpos
  have hlimit := (first.extendTo places).magnitude_lt
  omega

/-- Decimals of one value and without a sign are the same one when they have the most places. -/
theorem extendTo_eq_of_value_eq (hplaces : places ≤ maxScale) (hfirst : first.scale ≤ places)
    (hsecond : second.scale ≤ places) (hsignFirst : first.negative = false)
    (hsignSecond : second.negative = false) (hvalue : first.value = second.value) :
    first.extendTo places = second.extendTo places := by
  have hscale := (scale_extendTo_le_of_value_eq hplaces hfirst hvalue).antisymm
    (scale_extendTo_le_of_value_eq hplaces hsecond hvalue.symm)
  refine eq_of_value_eq (by rw [value_extendTo, value_extendTo, hvalue]) hscale ?_ ?_
  · rw [negative_extendTo, hsignFirst]
    exact nofun
  · rw [negative_extendTo, hsignSecond]
    exact nofun

end Invoicing.Decimal
