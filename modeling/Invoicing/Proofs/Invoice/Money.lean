import Invoicing.Proofs.Decimal.Digits
import Invoicing.Proofs.Invoice.Figures
import Mathlib.Data.List.DropRight

/-!
# How money is written

A figure of money is a sign, the currency symbol, digits in groups of three, a point and the
places.  `Figure.currency_exact` says that this is the amount in cents and nothing else: the groups
have their sizes, no zero is superfluous, the digits denote the rounded amount, and two amounts look
the same only when they are the same in cents.

How many places there are is another matter.  The digits of an amount in cents can be one too many
for a decimal; then the last place is missing, unless the amount is so large that both are, in which
case two zeros stand for them.  `Figure.length_places_currency` gives the range where a figure has
one place only: it starts at `2 ^ 96` cents and ends before ten times as many.
-/

namespace Invoicing.Figure

open Text

/-! ## Groups of three digits -/

/-- Digits in groups with commas between them: the first group has one to three digits, and every
other one three. -/
def IsGrouped (digits whole : Text) : Prop :=
  ∃ (first : Text) (groups : List Text),
    digits = first ++ groups.flatten ∧ whole = first ++ groups.flatMap (fun group => ',' :: group) ∧
      0 < first.length ∧ first.length ≤ 3 ∧ ∀ group ∈ groups, group.length = 3

theorem length_flatten_of_three {groups : List Text} (h : ∀ group ∈ groups, group.length = 3) :
    groups.flatten.length = 3 * groups.length := by
  rw [List.length_flatten, List.map_congr_left h, List.map_const', List.sum_replicate_nat,
    Nat.mul_comm]

theorem isGrouped_grouped {digits : Text} (hne : digits ≠ []) :
    IsGrouped digits (grouped digits) := by
  induction digits with
  | nil => exact absurd rfl hne
  | cons digit rest ih =>
      by_cases hrest : rest = []
      · subst hrest
        exact ⟨[digit], [], rfl, rfl, by simp, by simp, by simp⟩
      obtain ⟨first, groups, hdigits, hwhole, hpos, hle, hgroups⟩ := ih hrest
      have hlength : rest.length = first.length + 3 * groups.length := by
        rw [hdigits, List.length_append, length_flatten_of_three hgroups]
      by_cases hfull : rest.length % 3 = 0
      · -- the first group is full, and a new one begins
        have hthree : first.length = 3 := by omega
        refine ⟨[digit], first :: groups, ?_, ?_, by simp, by simp, ?_⟩
        · rw [hdigits]
          rfl
        · rw [grouped, if_pos (by simp [hfull, hrest]), hwhole]
          rfl
        · exact List.forall_mem_cons.mpr ⟨hthree, hgroups⟩
      · refine ⟨digit :: first, groups, ?_, ?_, by simp, ?_, hgroups⟩
        · rw [hdigits]
          rfl
        · rw [grouped, if_neg (by simp [hfull]), hwhole]
          rfl
        · rw [List.length_cons]
          omega

/-! ## The whole figure -/

section Figure

variable (amount : Decimal)

theorem cents_ne_nil : cents amount ≠ [] := by
  unfold cents
  split
  · exact List.cons_ne_nil _ _
  · next hscale =>
      rw [← List.length_pos_iff, Decimal.length_placeDigits]
      omega

/-- Two zeros that stand for no digits denote nothing. -/
theorem digitsValue_cents : (digitsValue (cents amount) / 10 ^ (cents amount).length : ℚ) =
    digitsValue (shown amount).placeDigits / 10 ^ (shown amount).placeDigits.length := by
  unfold cents
  split
  · next hscale =>
      have hzeros : digitsValue ['0', '0'] = 0 := by decide
      have hnone : digitsValue [] = 0 := by decide
      rw [(shown amount).placeDigits_eq_nil_iff.mpr hscale, hzeros, hnone, Nat.cast_zero, zero_div,
        zero_div]
  · rfl

/-- The digits of a figure denote the amount in cents, without its sign. -/
theorem digitsValue_shown :
    (digitsValue (shown amount).wholeDigits +
      digitsValue (cents amount) / 10 ^ (cents amount).length : ℚ) =
      |(nearest (amount.value * 100) : ℚ)| / 100 := by
  rw [digitsValue_cents, ← Decimal.abs_value_eq_digits, value_shown, abs_abs, abs_value_rounded]

end Figure

/-- **A figure of money is the amount in cents.** -/
theorem currency_exact (symbol : Text) (amount : Decimal) :
    (∃ digits whole fraction : Text,
      currency symbol amount = (if nearest (amount.value * 100) < 0 then ['-'] else []) ++
        (symbol ++ (whole ++ ('.' :: fraction))) ∧
      IsNumeral digits ∧ IsGrouped digits whole ∧
      fraction ≠ [] ∧ (∀ char ∈ fraction, char.isDigit) ∧
      (digitsValue digits + digitsValue fraction / 10 ^ fraction.length : ℚ) =
        |(nearest (amount.value * 100) : ℚ)| / 100) ∧
    ∀ other : Decimal, currency symbol amount = currency symbol other ↔
      nearest (amount.value * 100) = nearest (other.value * 100) := by
  constructor
  · refine ⟨(shown amount).wholeDigits, grouped (shown amount).wholeDigits, cents amount, ?_,
      (shown amount).isNumeral_wholeDigits, isGrouped_grouped (shown amount).wholeDigits_ne_nil,
      cents_ne_nil amount, fun _ => isDigit_of_mem_cents, digitsValue_shown amount⟩
    rw [currency_eq]
    simp only [Decimal.isNegative_iff, value_rounded_neg_iff]
  · intro other
    rw [currency_eq_iff, value_rounded_eq_iff]

/-! ## The number of places -/

/-- What stands behind the last point of a figure. -/
def places (figure : Text) : Text := figure.rtakeWhile (· ≠ '.')

theorem places_append {front fraction : Text} (h : ∀ char ∈ fraction, char.isDigit) :
    places (front ++ ('.' :: fraction)) = fraction := by
  have hpoint : ∀ char ∈ fraction.reverse, decide (char ≠ '.') := by
    intro char hchar
    exact decide_eq_true (ne_of_isDigit (h char (List.mem_reverse.mp hchar)) (by decide))
  rw [places, List.rtakeWhile, List.reverse_append, List.reverse_cons, List.append_assoc,
    List.takeWhile_append_of_pos hpoint, List.singleton_append,
    List.takeWhile_cons_of_neg (by decide), List.append_nil, List.reverse_reverse]

theorem places_currency (symbol : Text) (amount : Decimal) :
    places (currency symbol amount) = cents amount := by
  rw [currency_eq, ← List.append_assoc, ← List.append_assoc]
  exact places_append fun _ => isDigit_of_mem_cents

/-- Cents are the digits that are shown, with zeros for the places that are not. -/
theorem natAbs_nearest_eq (amount : Decimal) : (nearest (amount.value * 100)).natAbs =
    (shown amount).magnitude * 10 ^ (2 - (shown amount).scale) := by
  have hten := Decimal.ten_pow_pos (shown amount).scale
  have hhundred : (100 : ℚ) = 10 ^ (2 - (shown amount).scale) * 10 ^ (shown amount).scale := by
    rw [← pow_add, Nat.sub_add_cancel (scale_shown_le amount)]
    norm_num
  have hshown : ((shown amount).magnitude : ℚ) / 10 ^ (shown amount).scale =
      |(nearest (amount.value * 100) : ℚ)| / 100 := by
    rw [← abs_value_rounded, ← value_shown, Decimal.value, Decimal.coefficient, negative_shown,
      if_neg Bool.false_ne_true, Int.cast_natCast]
  generalize nearest (amount.value * 100) = whole at hshown ⊢
  rw [hhundred, div_eq_div_iff hten.ne' (by positivity), ← mul_assoc, mul_left_inj' hten.ne',
    ← Int.cast_abs, Int.abs_eq_natAbs] at hshown
  exact_mod_cast hshown.symm

theorem length_cents (amount : Decimal) :
    (cents amount).length = if (shown amount).scale = 1 then 1 else 2 := by
  have hle := scale_shown_le amount
  unfold cents
  split
  · next hscale => rw [hscale, if_neg (by decide), List.length_cons, List.length_singleton]
  · next hscale =>
      rw [Decimal.length_placeDigits]
      split <;> omega

/-- **A figure has two places, but for amounts from `2 ^ 96` cents to below ten times as many.** -/
theorem length_places_currency (symbol : Text) (amount : Decimal) :
    (∀ char ∈ places (currency symbol amount), char.isDigit) ∧
    (places (currency symbol amount)).length =
      if Decimal.magnitudeLimit ≤ (nearest (amount.value * 100)).natAbs ∧
        (nearest (amount.value * 100)).natAbs < 10 * Decimal.magnitudeLimit then 1 else 2 := by
  rw [places_currency]
  refine ⟨fun _ => isDigit_of_mem_cents, ?_⟩
  have hroom := magnitudeLimit_le_of_scale_shown amount
  have hlimit := (shown amount).magnitude_lt
  rw [length_cents, natAbs_nearest_eq]
  obtain hscale | hscale | hscale :
      (shown amount).scale = 0 ∨ (shown amount).scale = 1 ∨ (shown amount).scale = 2 := by
    have hle := scale_shown_le amount
    omega
  · -- not even one place has room
    have hlarge := hroom (by omega)
    rw [hscale, if_neg (by decide), if_neg (by omega)]
  · have hlarge := hroom (by omega)
    rw [hscale, if_pos rfl, if_pos (by omega)]
  · rw [hscale, if_neg (by decide), if_neg (by omega)]

/-- The largest decimal with one place. -/
def largestTenths : Decimal := ⟨false, 2 ^ 96 - 1, 1, by decide, by decide⟩

/-- The largest decimal with one place is written with one place. -/
theorem not_length_places_eq_two :
    ¬ ∀ (symbol : Text) (amount : Decimal), (places (currency symbol amount)).length = 2 := by
  intro hclaim
  have hplaces : (places (currency ['$'] largestTenths)).length = 1 := by decide +kernel
  rw [hclaim] at hplaces
  exact absurd hplaces (by decide)

end Invoicing.Figure
