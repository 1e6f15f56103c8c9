import Invoicing.Proofs.Decimal.Value

/-!
# When arithmetic loses no digits

A result with too many digits or places loses some of its last ones.  This file says when it does
not.

* A number that is the value of some decimal is reached exactly, however many places the operation
  comes with (`Decimal.value_saturate_of_eq`).  So a product is exact as soon as its value can be
  written (`Decimal.value_mul`).
* A sum is exact as soon as its value has room at a number of places that both operands keep to
  (`Decimal.value_add_of_room`), and it keeps to them too (`Decimal.scale_add_le`).

The obstacle is the order of the search.  `Decimal.fit?` drops as few digits as it can, and it may
find room before the last zero is dropped.  Therefore the lemmas bound the number of dropped digits
by any number that would do (`Decimal.exists_fit?_eq`).
-/

namespace Invoicing.Decimal

variable {coefficient : ℤ} {scale count places : ℕ} {first second decimal : Decimal}

/-! ## The fewest digits that have to go -/

/-- When a number of digits is enough, no more of them are dropped. -/
theorem exists_fit?_eq (hcount : count ≤ scale)
    (h : of? (dropDigits .toEven coefficient count) (scale - count) = some decimal) :
    ∃ fewest ≤ count, ∃ found, fit? coefficient scale = some found ∧
      of? (dropDigits .toEven coefficient fewest) (scale - fewest) = some found := by
  have hrange : List.range (scale + 1) =
      List.range (count + 1) ++ (List.range (scale - count)).map (count + 1 + ·) := by
    rw [← List.range_add]
    congr 1
    omega
  have hsome : ((List.range (count + 1)).findSome? fun fewest =>
      of? (dropDigits .toEven coefficient fewest) (scale - fewest)).isSome := by
    rw [List.findSome?_isSome_iff]
    exact ⟨count, List.mem_range.mpr count.lt_succ_self, by rw [h]; rfl⟩
  obtain ⟨found, hfound⟩ := Option.isSome_iff_exists.mp hsome
  obtain ⟨fewest, hfewest, hof⟩ := List.exists_of_findSome?_eq_some hfound
  refine ⟨fewest, Nat.le_of_lt_succ (List.mem_range.mp hfewest), found, ?_, hof⟩
  rw [fit?, hrange, List.findSome?_append, hfound, Option.some_or]

/-- Digits are dropped from the places only. -/
theorem scale_saturate_le (coefficient : ℤ) (scale : ℕ) :
    (saturate coefficient scale).scale ≤ scale := by
  unfold saturate
  cases hfit : fit? coefficient scale with
  | none =>
      rw [Option.getD_none]
      split <;> exact Nat.zero_le _
  | some found =>
      obtain ⟨count, -, hof⟩ := List.exists_of_findSome?_eq_some hfit
      rw [Option.getD_some, (of?_eq_some_iff.mp hof).2.1]
      exact Nat.sub_le _ _

theorem natAbs_dropDigits_le (tie : Tie) (coefficient : ℤ) (count : ℕ) :
    (dropDigits tie coefficient count).natAbs ≤ roundDiv tie coefficient.natAbs (10 ^ count) := by
  rw [dropDigits, Int.natAbs_mul, Int.natAbs_natCast]
  have hsign : coefficient.sign.natAbs ≤ 1 := by
    rw [Int.natAbs_sign]
    split <;> omega
  calc coefficient.sign.natAbs * roundDiv tie coefficient.natAbs (10 ^ count)
      ≤ 1 * roundDiv tie coefficient.natAbs (10 ^ count) := Nat.mul_le_mul_right _ hsign
    _ = roundDiv tie coefficient.natAbs (10 ^ count) := Nat.one_mul _

/-- Zeros at the end are dropped without a trace. -/
theorem dropDigits_mul_pow (tie : Tie) (coefficient : ℤ) (count : ℕ) :
    dropDigits tie (coefficient * 10 ^ count) count = coefficient := by
  have hten : 0 < 10 ^ count := Nat.pow_pos (by decide)
  have hsign : (10 ^ count : ℤ).sign = 1 := Int.sign_eq_one_of_pos (by positivity)
  have hdigits : (coefficient * 10 ^ count).natAbs = coefficient.natAbs * 10 ^ count := by
    rw [Int.natAbs_mul, Int.natAbs_pow]
    rfl
  rw [dropDigits, Int.sign_mul, hsign, mul_one, hdigits, roundDiv_mul_self tie _ hten,
    Int.sign_mul_natAbs]

/-- A digit that is dropped leaves room for the rounding of the others. -/
theorem natAbs_dropDigits_lt (tie : Tie) (h : coefficient.natAbs < magnitudeLimit) :
    (dropDigits tie coefficient count).natAbs < magnitudeLimit := by
  rcases Nat.eq_zero_or_pos count with rfl | hpos
  · rwa [dropDigits_zero]
  · exact (natAbs_dropDigits_le _ _ _).trans_lt (roundDiv_pow_lt h tie hpos)

/-- Of digits that have room only the places too many are dropped. -/
theorem value_saturate_add (h : coefficient.natAbs < magnitudeLimit) (count : ℕ) :
    (saturate coefficient (maxScale + count)).value =
      dropDigits .toEven coefficient count / 10 ^ maxScale := by
  obtain ⟨dropped, hdropped⟩ : ∃ dropped, of? (dropDigits .toEven coefficient count)
      (maxScale + count - count) = some dropped :=
    ⟨_, dif_pos ⟨natAbs_dropDigits_lt .toEven h, (Nat.add_sub_cancel ..).le⟩⟩
  obtain ⟨fewest, hfewest, found, hfit, hfound⟩ := exists_fit?_eq (Nat.le_add_left _ _) hdropped
  obtain ⟨hcoefficient, hscale, -⟩ := of?_eq_some_iff.mp hfound
  have hlimit := found.scale_le
  obtain rfl : fewest = count := by omega
  rw [saturate, hfit, Option.getD_some, value, hcoefficient, hscale, Nat.add_sub_cancel]

/-! ## Numbers that can be written -/

theorem exists_value_eq (hlt : coefficient.natAbs < magnitudeLimit) (hscale : scale ≤ maxScale) :
    ∃ decimal : Decimal, decimal.value = coefficient / 10 ^ scale :=
  ⟨saturate coefficient scale, value_saturate hlt hscale⟩

/-- A number that can be written is kept, with however many zeros it comes. -/
theorem value_saturate_of_eq (h : decimal.value = coefficient / 10 ^ scale) :
    (saturate coefficient scale).value = decimal.value := by
  have hten : ∀ places : ℕ, (10 : ℚ) ^ places ≠ 0 := fun places => (ten_pow_pos places).ne'
  have hcross : decimal.coefficient * 10 ^ scale = coefficient * 10 ^ decimal.scale := by
    rw [value, div_eq_div_iff (hten _) (hten _)] at h
    exact_mod_cast h
  rcases Nat.le_total scale decimal.scale with hle | hle
  · -- fewer places than the decimal has, so its digits fit as well
    obtain ⟨more, hmore⟩ := Nat.exists_eq_add_of_le hle
    have hdigits : decimal.coefficient = coefficient * 10 ^ more := by
      rw [hmore, pow_add, mul_left_comm, mul_comm] at hcross
      exact mul_left_cancel₀ (by positivity) hcross
    have hlt : coefficient.natAbs < magnitudeLimit := by
      refine lt_of_le_of_lt ?_ decimal.magnitude_lt
      rw [← natAbs_coefficient, hdigits, Int.natAbs_mul]
      exact Nat.le_mul_of_pos_right _ (Int.natAbs_pos.mpr (by positivity))
    rw [value_saturate hlt (hle.trans decimal.scale_le), h]
  · -- the places that the decimal lacks are zeros, and some of them are dropped
    obtain ⟨zeros, rfl⟩ := Nat.exists_eq_add_of_le hle
    have hdigits : coefficient = decimal.coefficient * 10 ^ zeros := by
      rw [pow_add, mul_left_comm, mul_comm coefficient] at hcross
      exact (mul_left_cancel₀ (by positivity) hcross).symm
    have hexact : ∀ count ≤ zeros, dropDigits .toEven coefficient count =
        decimal.coefficient * 10 ^ (zeros - count) := by
      intro count hcount
      rw [hdigits, ← Nat.sub_add_cancel hcount, pow_add, ← mul_assoc, dropDigits_mul_pow,
        Nat.add_sub_cancel]
    obtain ⟨stripped, hstripped⟩ : ∃ stripped, of? (dropDigits .toEven coefficient zeros)
        (decimal.scale + zeros - zeros) = some stripped := by
      rw [hexact zeros le_rfl, Nat.sub_self, pow_zero, mul_one, Nat.add_sub_cancel]
      exact ⟨_, dif_pos ⟨by simpa using decimal.magnitude_lt, decimal.scale_le⟩⟩
    obtain ⟨fewest, hfewest, found, hfit, hfound⟩ :=
      exists_fit?_eq (Nat.le_add_left _ _) hstripped
    obtain ⟨hcoefficient, hscale, -⟩ := of?_eq_some_iff.mp hfound
    have hplaces : found.scale = decimal.scale + (zeros - fewest) := by omega
    rw [saturate, hfit, Option.getD_some, value, value, hcoefficient, hexact fewest hfewest, hplaces,
      pow_add]
    push_cast
    exact mul_div_mul_right _ _ (hten _)

/-- **A product whose value can be written has that value.** -/
theorem value_mul (h : decimal.value = first.value * second.value) :
    (first.mul second).value = first.value * second.value := by
  unfold mul
  split
  · next hzero =>
      have hnone : first.value = 0 ∨ second.value = 0 := by
        rw [value_eq_zero_iff, value_eq_zero_iff]
        simpa using hzero
      rw [mul_eq_zero.mpr hnone, value_eq_zero_iff]
      rfl
  · rw [← h]
    refine value_saturate_of_eq ?_
    rw [h, value, value, div_mul_div_comm, pow_add]
    push_cast
    rfl

theorem scale_mul_le (first second : Decimal) :
    (first.mul second).scale ≤ first.scale + second.scale := by
  unfold mul
  split
  · exact Nat.zero_le _
  · exact scale_saturate_le _ _

/-! ## Sums with room -/

theorem scale_add_le (hfirst : first.scale ≤ places) (hsecond : second.scale ≤ places) :
    (first.add second).scale ≤ places := by
  unfold add
  split
  · exact hsecond
  · split
    · exact hfirst
    · exact (scale_saturate_le _ _).trans (max_le hfirst hsecond)

/-- **A sum is exact when there is room for it with all the places of its operands.** -/
theorem value_add_of_room (hfirst : first.scale ≤ places) (hsecond : second.scale ≤ places)
    (hroom : |first.value + second.value| * 10 ^ places < magnitudeLimit) :
    (first.add second).value = first.value + second.value :=
  value_add (sumFits_of_room hfirst hsecond hroom)

end Invoicing.Decimal
