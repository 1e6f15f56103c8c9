import Invoicing.Invoice.Figures
import Invoicing.Proofs.Decimal.Canonical
import Invoicing.Proofs.Decimal.Numeral

/-!
# Money figures are read back

A figure of money is meant to be read: after the sign and the currency symbol comes a numeral,
with commas between its digits.  `Figure.read?` reads it so, and what it reads has the value of
the amount in cents (`Figure.read?_currency`), whatever the symbol is.

Two things could go wrong.  The symbol may look like a sign or a digit; but a minus sign in front of
the symbol is never mistaken, since a digit follows the symbol.  And an amount that has no room for
two places shows fewer of them, or zeros that are none of its digits; the reader stops at a place
that has no room, so it reads the same amount.
-/

namespace Invoicing

open Text

namespace Figure

/-! ## Reading a figure -/

/-- The amount that a figure shows: after a minus sign or none, and the symbol, comes a numeral with
commas between its digits. -/
def read? (symbol figure : Text) : Option Decimal :=
  match ('-' :: symbol).isPrefixOf? figure with
  | some numeral => (Decimal.read? (numeral.filter (· ≠ ','))).map Decimal.neg
  | none =>
      (symbol.isPrefixOf? figure).bind fun numeral => Decimal.read? (numeral.filter (· ≠ ','))

section Read

variable {symbol numeral digits : Text} {amount : Decimal}

/-- The digits that a figure shows. -/
def shown (amount : Decimal) : Decimal := (rounded amount).abs.extendTo 2

/-- The places that a figure shows. -/
def cents (amount : Decimal) : Text :=
  if (shown amount).scale = 0 then ['0', '0'] else (shown amount).placeDigits

theorem negative_shown (amount : Decimal) : (shown amount).negative = false :=
  Decimal.negative_extendTo 2 (rounded amount).abs

theorem scale_shown_le (amount : Decimal) : (shown amount).scale ≤ 2 :=
  Decimal.scale_extendTo_le (Decimal.scale_roundTo_le 2 .up amount)

/-- An amount that shows fewer than two places has no room for a digit more. -/
theorem magnitudeLimit_le_of_scale_shown (amount : Decimal) (hscale : (shown amount).scale < 2) :
    Decimal.magnitudeLimit ≤ (shown amount).magnitude * 10 :=
  Decimal.magnitudeLimit_le_of_scale_extendTo_ne (by decide) hscale

theorem value_shown (amount : Decimal) : (shown amount).value = |(rounded amount).value| := by
  rw [shown, Decimal.value_extendTo, Decimal.value_abs]

theorem currency_eq (symbol : Text) (amount : Decimal) :
    currency symbol amount = (if (rounded amount).isNegative then ['-'] else []) ++
      (symbol ++ (grouped (shown amount).wholeDigits ++ ('.' :: cents amount))) := by
  have hpoint : ∀ char ∈ (shown amount).wholeDigits, decide (char ≠ '.') := by
    intro char hchar
    have hdigit := (shown amount).isDigit_of_mem_wholeDigits hchar
    exact decide_eq_true (ne_of_isDigit hdigit (by decide))
  have htext := (shown amount).text_eq
  rw [negative_shown, if_neg Bool.false_ne_true, List.nil_append] at htext
  have hbefore : (shown amount).text.takeWhile (· ≠ '.') = (shown amount).wholeDigits := by
    rw [htext, List.takeWhile_append_of_pos hpoint]
    split <;> simp
  have hafter : (shown amount).text.dropWhile (· ≠ '.') =
      if (shown amount).scale = 0 then [] else '.' :: (shown amount).placeDigits := by
    rw [htext, List.dropWhile_append_of_pos hpoint]
    split <;> simp
  rw [shown] at hbefore hafter
  rw [currency, hbefore, hafter, cents, shown]
  by_cases hscale : ((rounded amount).abs.extendTo 2).scale = 0
  · rw [if_pos hscale, if_pos hscale]
  · rw [if_neg hscale, if_neg hscale]

/-! ### The numeral -/

/-- Grouping brings in nothing but commas. -/
theorem filter_grouped (digits : Text) :
    (grouped digits).filter (· ≠ ',') = digits.filter (· ≠ ',') := by
  fun_induction grouped digits with
  | case1 => rfl
  | case2 digit rest hgroup ih => simp_all [List.filter_cons]
  | case3 digit rest hgroup ih => simp_all [List.filter_cons]

theorem exists_grouped_eq_cons (hne : digits ≠ []) :
    ∃ rest, grouped digits = digits.head hne :: rest := by
  obtain ⟨digit, more, rfl⟩ := List.exists_cons_of_ne_nil hne
  rw [grouped]
  split
  · exact ⟨_, rfl⟩
  · exact ⟨_, rfl⟩

theorem isDigit_of_mem_cents {char : Char} (h : char ∈ cents amount) : char.isDigit := by
  unfold cents at h
  split at h
  · have hzero : char = '0' := by simpa using h
    rw [hzero]
    decide
  · exact (shown amount).isDigit_of_mem_placeDigits h

/-- Places that have no room are passed over when they are zeros. -/
theorem readPlaces?_cents (amount : Decimal) :
    Decimal.readPlaces? (digitsValue (shown amount).wholeDigits) 0 (cents amount) =
      some ((shown amount).magnitude, (shown amount).scale) := by
  unfold cents
  split
  · next hscale =>
      have hplaces := (shown amount).placeDigits_eq_nil_iff.mpr hscale
      have hwhole : digitsValue (shown amount).wholeDigits = (shown amount).magnitude := by
        rw [← Decimal.ofDigitChars_placeDigits, hplaces]
        rfl
      have hroom : ¬ Nat.ofDigitChars 10 ['0'] (shown amount).magnitude < Decimal.magnitudeLimit := by
        have hlimit := magnitudeLimit_le_of_scale_shown amount (by omega)
        rw [Nat.ofDigitChars_cons, Nat.ofDigitChars_nil]
        omega
      rw [hwhole, hscale, Decimal.readPlaces?, if_neg (by decide)]
      simp [hroom]
  · exact (shown amount).readPlaces?_placeDigits

/-- Without its commas the numeral of a figure reads as what it shows. -/
theorem read?_numeral (amount : Decimal) :
    Decimal.read? ((grouped (shown amount).wholeDigits ++ ('.' :: cents amount)).filter
      (· ≠ ',')) = some (shown amount) := by
  have hwhole : (shown amount).wholeDigits.filter (· ≠ ',') = (shown amount).wholeDigits := by
    refine List.filter_eq_self.mpr fun char hchar => ?_
    have hdigit := (shown amount).isDigit_of_mem_wholeDigits hchar
    exact decide_eq_true (ne_of_isDigit hdigit (by decide))
  have hcents : (cents amount).filter (· ≠ ',') = cents amount := by
    refine List.filter_eq_self.mpr fun char hchar => ?_
    exact decide_eq_true (ne_of_isDigit (isDigit_of_mem_cents hchar) (by decide))
  have hsign : (shown amount).negative → (shown amount).magnitude ≠ 0 := by
    rw [negative_shown]
    exact fun hfalse => absurd hfalse Bool.false_ne_true
  have hread : Decimal.readPositional? ((shown amount).wholeDigits ++ '.' :: cents amount) =
      some (shown amount) := by
    have happend := Decimal.readPositional?_append false (shown amount).wholeDigits_ne_nil
      (fun _ => (shown amount).isDigit_of_mem_wholeDigits)
      (fun char (hchar : char ∈ cents amount) => isDigit_of_mem_cents hchar) (Or.inl rfl)
    rw [if_pos (shown amount).digitsValue_wholeDigits_lt, readPlaces?_cents] at happend
    refine happend.trans ?_
    have hcoefficient : (shown amount).coefficient = (shown amount).magnitude := by
      rw [Decimal.coefficient, negative_shown, if_neg Bool.false_ne_true]
    have hvalue := Decimal.of?_coefficient_scale hsign
    rw [hcoefficient] at hvalue
    exact hvalue
  rw [List.filter_append, filter_grouped, hwhole, List.filter_cons_of_pos (by decide), hcents,
    Decimal.read?, hread]
  rfl

/-! ### The sign -/

/-- A symbol with a digit behind it does not start with a minus sign and the symbol. -/
theorem isPrefixOf?_minus_eq_none {digit : Char} (hdigit : digit ≠ '-') (rest : Text) :
    ('-' :: symbol).isPrefixOf? (symbol ++ digit :: rest) = none := by
  rw [Option.eq_none_iff_forall_ne_some]
  intro after hprefix
  have happend := List.isPrefixOf?_eq_some_iff_append_eq.mp hprefix
  -- cut both sides behind the digit, and count the minus signs
  have hfirst : '-' :: symbol = symbol ++ [digit] := by
    have htake := congrArg (List.take (symbol.length + 1)) happend
    rw [List.take_left' (by simp), List.take_length_add_append] at htake
    exact htake
  have hcount := congrArg (List.count '-') hfirst
  simp [hdigit] at hcount

/-- **What a figure of money shows is its amount in cents.** -/
theorem read?_currency (symbol : Text) (amount : Decimal) :
    ∃ read, read? symbol (currency symbol amount) = some read ∧
      read.value = (rounded amount).value := by
  rw [currency_eq]
  by_cases hnegative : (rounded amount).isNegative
  · refine ⟨(shown amount).neg, ?_, ?_⟩
    · rw [if_pos hnegative, List.singleton_append, ← List.cons_append, read?,
        List.isPrefixOf?_eq_some_iff_append_eq.mpr rfl]
      simp only [read?_numeral, Option.map_some]
    · have hvalue := Decimal.isNegative_iff.mp hnegative
      rw [Decimal.value_neg, value_shown, abs_of_neg hvalue, neg_neg]
  · refine ⟨shown amount, ?_, ?_⟩
    · obtain ⟨rest, hrest⟩ := exists_grouped_eq_cons (shown amount).wholeDigits_ne_nil
      have hhead := (shown amount).isDigit_of_mem_wholeDigits
        (List.head_mem (shown amount).wholeDigits_ne_nil)
      have hnumeral := read?_numeral amount
      rw [hrest, List.cons_append] at hnumeral ⊢
      rw [if_neg hnegative, List.nil_append, read?,
        isPrefixOf?_minus_eq_none (ne_of_isDigit hhead (by decide)),
        List.isPrefixOf?_eq_some_iff_append_eq.mpr rfl]
      exact hnumeral
    · have hvalue := Decimal.isNegative_iff.not.mp hnegative
      rw [value_shown, abs_of_nonneg (not_lt.mp hvalue)]

theorem value_rounded (amount : Decimal) :
    (rounded amount).value = nearest (amount.value * 100) / 100 := by
  have hplaces : (10 : ℚ) ^ 2 = 100 := by norm_num
  rw [rounded, Decimal.value_roundTo_up, hplaces]

/-- In cents a number is negative when the nearest whole number of cents is. -/
theorem value_rounded_neg_iff (amount : Decimal) :
    (rounded amount).value < 0 ↔ nearest (amount.value * 100) < 0 := by
  rw [value_rounded, div_lt_iff₀ (by norm_num), zero_mul, Int.cast_lt_zero]

theorem abs_value_rounded (amount : Decimal) :
    |(rounded amount).value| = |(nearest (amount.value * 100) : ℚ)| / 100 := by
  rw [value_rounded, abs_div, abs_of_pos (by norm_num : (0 : ℚ) < 100)]

theorem value_rounded_eq_iff {first second : Decimal} :
    (rounded first).value = (rounded second).value ↔
      nearest (first.value * 100) = nearest (second.value * 100) := by
  rw [value_rounded, value_rounded, div_left_inj' (by norm_num), Int.cast_inj]

/-- Two amounts look the same exactly when they are the same in cents. -/
theorem currency_eq_iff {first second : Decimal} : currency symbol first = currency symbol second ↔
    (rounded first).value = (rounded second).value := by
  constructor
  · intro hsame
    obtain ⟨readFirst, hreadFirst, hvalueFirst⟩ := read?_currency symbol first
    obtain ⟨readSecond, hreadSecond, hvalueSecond⟩ := read?_currency symbol second
    rw [hsame, hreadSecond, Option.some.injEq] at hreadFirst
    rw [← hvalueFirst, ← hreadFirst, hvalueSecond]
  · intro hvalue
    have hsign : (rounded first).isNegative = (rounded second).isNegative := by
      rw [Bool.eq_iff_iff, Decimal.isNegative_iff, Decimal.isNegative_iff, hvalue]
    have habs : (rounded first).abs.value = (rounded second).abs.value := by
      rw [Decimal.value_abs, Decimal.value_abs, hvalue]
    have hshown : shown first = shown second :=
      Decimal.extendTo_eq_of_value_eq (by decide) (Decimal.scale_roundTo_le 2 .up first)
        (Decimal.scale_roundTo_le 2 .up second) rfl rfl habs
    rw [currency_eq, currency_eq, cents, cents, hsign, hshown]

/-- Every amount that is zero in cents shows as the amount zero does. -/
theorem currency_eq_zero_iff (symbol : Text) (amount : Decimal) :
    currency symbol amount = currency symbol .zero ↔ (rounded amount).value = 0 := by
  have hzero : (rounded .zero).value = 0 := Decimal.value_eq_zero_iff.mpr rfl
  rw [currency_eq_iff, hzero]

end Read

end Figure

end Invoicing
