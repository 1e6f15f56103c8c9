import Invoicing.Decimal.Numeral
import Mathlib.Data.List.Basic
import Mathlib.Data.Option.Basic

/-!
# Numerals of decimals are read back

A numeral says everything about its decimal: the sign, the digits, and by the number of its
places the scale.  So reading undoes writing (`Decimal.read?_text`), as long as the decimal is not
a zero with a minus sign.

The reader takes the digits before the point at once and the places one by one, since each may
be the first that has no room.  The places of a numeral that was written from a decimal all have
room (`Decimal.readPlaces?_of_isDigit`).
-/

namespace Invoicing

/-! ## Runs of digits -/

namespace Text

variable {char : Char} {digits first second : Text}

/-- Zeros in front of digits do not change the number. -/
@[simp] theorem digitsValue_zeroPadded (width : ℕ) (digits : Text) :
    digitsValue (zeroPadded width digits) = digitsValue digits := by
  rw [digitsValue, zeroPadded, Nat.ofDigitChars_append, Nat.ofDigitChars_replicate_zero,
    Nat.mul_zero, digitsValue]

theorem length_zeroPadded (width : ℕ) (digits : Text) :
    (zeroPadded width digits).length = max width digits.length := by
  rw [zeroPadded, List.length_append, List.length_replicate]
  omega

theorem ofNat_ne_nil (number : ℕ) : ofNat number ≠ [] :=
  List.ne_nil_of_length_pos Nat.length_toDigits_pos

theorem isDigit_of_mem_ofNat {number : ℕ} (h : char ∈ ofNat number) : char.isDigit :=
  Nat.isDigit_of_mem_toDigits (by decide) (by decide) h

theorem isDigit_of_mem_zeroPadded {width : ℕ} (hdigits : ∀ char ∈ digits, char.isDigit)
    (h : char ∈ zeroPadded width digits) : char.isDigit := by
  rcases List.mem_append.mp h with hzero | h
  · rw [List.eq_of_mem_replicate hzero]
    decide
  · exact hdigits char h

theorem digitsValue_append (first second : Text) :
    digitsValue (first ++ second) = Nat.ofDigitChars 10 second (digitsValue first) :=
  Nat.ofDigitChars_append 0

/-- More digits make a number no smaller. -/
theorem le_ofDigitChars (number : ℕ) (digits : Text) : number ≤ Nat.ofDigitChars 10 digits number := by
  rw [Nat.ofDigitChars_eq_ofDigitChars_zero]
  have hpos : 0 < 10 ^ digits.length := Nat.pow_pos (by decide)
  calc number
      ≤ 10 ^ digits.length * number := Nat.le_mul_of_pos_left number hpos
    _ ≤ 10 ^ digits.length * number + Nat.ofDigitChars 10 digits 0 := Nat.le_add_right _ _

theorem ne_of_isDigit {other : Char} (h : char.isDigit) (hother : other.isDigit = false) :
    char ≠ other := by
  rintro rfl
  simp [hother] at h

theorem mem_ofInt {number : Int} (h : char ∈ ofInt number) : char = '-' ∨ char.isDigit := by
  unfold ofInt at h
  split at h
  · rcases List.mem_cons.mp h with rfl | hdigit
    · exact .inl rfl
    · exact .inr (isDigit_of_mem_ofNat hdigit)
  · exact .inr (isDigit_of_mem_ofNat h)

theorem digitChar_ne_zero : ∀ digit < 10, digit ≠ 0 → Nat.digitChar digit ≠ '0' := by
  decide

/-- The last digit stands behind the digits of the tenth part. -/
theorem ofNat_eq_append {number : ℕ} (hlarge : ¬ number < 10) :
    ofNat number = ofNat (number / 10) ++ [Nat.digitChar (number % 10)] :=
  Nat.toDigits_of_base_le (by decide) (by omega)

/-- A number is written without superfluous zeros. -/
theorem head?_ofNat_ne_zero {number : ℕ} (hne : number ≠ 0) : (ofNat number).head? ≠ some '0' := by
  induction number using Nat.strongRecOn with
  | _ number ih =>
      by_cases hsmall : number < 10
      · rw [ofNat, Nat.toDigits_of_lt_base hsmall]
        simpa using digitChar_ne_zero number hsmall hne
      · rw [ofNat_eq_append hsmall, List.head?_append_of_ne_nil _ (ofNat_ne_nil _)]
        exact ih (number / 10) (by omega) (by omega)

theorem getLast?_ofNat (number : ℕ) :
    (ofNat number).getLast? = some (Nat.digitChar (number % 10)) := by
  by_cases hsmall : number < 10
  · rw [ofNat, Nat.toDigits_of_lt_base hsmall, Nat.mod_eq_of_lt hsmall]
    rfl
  · rw [ofNat_eq_append hsmall, List.getLast?_concat]

end Text

namespace Decimal

open Text

/-! ## Reading -/

section Read

variable {whole places tail : Text} {magnitude scale : ℕ}

/-- Places that all have room are read onto the digits before them. -/
theorem readPlaces?_of_isDigit (hdigits : ∀ char ∈ places, char.isDigit)
    (hlt : Nat.ofDigitChars 10 places magnitude < magnitudeLimit)
    (hscale : scale + places.length ≤ maxScale) :
    readPlaces? magnitude scale places =
      some (Nat.ofDigitChars 10 places magnitude, scale + places.length) := by
  induction places generalizing magnitude scale with
  | nil => rfl
  | cons char rest ih =>
      obtain ⟨hchar, hrest⟩ := List.forall_mem_cons.mp hdigits
      have hsplit : Nat.ofDigitChars 10 (char :: rest) magnitude =
          Nat.ofDigitChars 10 rest (Nat.ofDigitChars 10 [char] magnitude) :=
        @Nat.ofDigitChars_append 10 [char] rest magnitude
      rw [hsplit] at hlt ⊢
      rw [List.length_cons] at hscale ⊢
      have hroom : Nat.ofDigitChars 10 [char] magnitude < magnitudeLimit :=
        Nat.lt_of_le_of_lt (le_ofDigitChars _ rest) hlt
      have hplace : scale < maxScale := by omega
      have hunderscore : char ≠ '_' := ne_of_isDigit hchar (by decide)
      rw [readPlaces?, if_neg hunderscore]
      simp only [hplace, hroom, decide_true, Bool.and_self, if_true]
      rw [ih hrest hlt (by omega), Nat.add_right_comm, Nat.add_assoc]

theorem readSign_append (negative : Bool) (hne : whole ≠ []) (hwhole : ∀ char ∈ whole, char.isDigit)
    (rest : Text) :
    readSign ((if negative then ['-'] else []) ++ (whole ++ rest)) = (negative, whole ++ rest) := by
  cases negative with
  | true => rfl
  | false =>
      obtain ⟨head, more, rfl⟩ := List.exists_cons_of_ne_nil hne
      have hhead : head.isDigit := hwhole head (List.mem_cons_self ..)
      have hminus : head ≠ '-' := ne_of_isDigit hhead (by decide)
      have hplus : head ≠ '+' := ne_of_isDigit hhead (by decide)
      simp only [Bool.false_eq_true, if_false, List.nil_append, List.cons_append]
      unfold readSign
      split <;> simp_all

/-- A numeral is read in three parts: its sign, the digits before the point and the places. -/
theorem readPositional?_append (negative : Bool) (hne : whole ≠ [])
    (hwhole : ∀ char ∈ whole, char.isDigit) (hplaces : ∀ char ∈ places, char.isDigit)
    (htail : tail = '.' :: places ∨ tail = [] ∧ places = []) :
    readPositional? ((if negative then ['-'] else []) ++ (whole ++ tail)) =
      if digitsValue whole < magnitudeLimit then
        (readPlaces? (digitsValue whole) 0 places).bind fun (magnitude, scale) =>
          of? (if negative then -magnitude else magnitude) scale
      else none := by
  have hpoint : ∀ char ∈ whole, decide (char ≠ '.') := by
    intro char hchar
    exact decide_eq_true (ne_of_isDigit (hwhole char hchar) (by decide))
  have hbefore : (whole ++ tail).takeWhile (· ≠ '.') = whole := by
    rw [List.takeWhile_append_of_pos hpoint]
    rcases htail with rfl | ⟨rfl, -⟩ <;> simp
  have hafter : ((whole ++ tail).dropWhile (· ≠ '.')).drop 1 = places := by
    rw [List.dropWhile_append_of_pos hpoint]
    rcases htail with rfl | ⟨rfl, rfl⟩ <;> simp
  have hall : (whole ++ places).all fun char => char.isDigit || char == '_' := by
    rw [List.all_eq_true]
    intro char hchar
    rcases List.mem_append.mp hchar with hchar | hchar
    · simp [hwhole char hchar]
    · simp [hplaces char hchar]
  have hhead : (whole ++ places).head?.any Char.isDigit := by
    obtain ⟨head, more, rfl⟩ := List.exists_cons_of_ne_nil hne
    simpa using hwhole head (List.mem_cons_self ..)
  have hfilter : whole.filter Char.isDigit = whole := List.filter_eq_self.mpr hwhole
  simp only [readPositional?, readSign_append negative hne hwhole, hbefore, hafter, hall, hhead,
    hfilter, guard_true, Option.pure_def, Option.bind_eq_bind, Option.bind_some]
  by_cases hlt : digitsValue whole < magnitudeLimit
  · simp only [hlt, guard_true, Option.pure_def, Option.bind_some, if_true]
  · simp only [hlt, guard_false, Option.failure_eq_none, Option.bind_none, if_false]

theorem readScientific?_eq_none {text : Text} (h : ∀ char ∈ text, char ≠ 'e' ∧ char ≠ 'E') :
    readScientific? text = none := by
  have hrest : text.dropWhile (fun char => !(char == 'e' || char == 'E')) = [] := by
    rw [← List.append_nil text, List.dropWhile_append_of_pos]
    · rfl
    · intro char hchar
      obtain ⟨hsmall, hlarge⟩ := h char hchar
      simp [hsmall, hlarge]
  simp only [readScientific?, hrest]
  exact Option.bind_fun_none _

/-- The digits of a whole number are read as the decimal without places, if there is one. -/
theorem read?_ofInt (number : Int) : read? (Text.ofInt number) = of? number 0 := by
  have htext : Text.ofInt number =
      (if decide (number < 0) then ['-'] else []) ++ (Text.ofNat number.natAbs ++ []) := by
    rw [Text.ofInt, List.append_nil]
    by_cases hnegative : number < 0 <;> simp [hnegative]
  have hcoefficient :
      (if decide (number < 0) then -(number.natAbs : Int) else number.natAbs) = number := by
    simp only [decide_eq_true_eq]
    omega
  have hpositional : readPositional? (Text.ofInt number) = of? number 0 := by
    rw [htext, readPositional?_append _ (ofNat_ne_nil _) (fun _ => isDigit_of_mem_ofNat)
      (by simp) (.inr ⟨rfl, rfl⟩), digitsValue_ofNat]
    split
    · rw [readPlaces?, Option.bind_some]
      simp only [hcoefficient]
    · next hle => rw [of?, dif_neg (fun h => hle h.1)]
  have hmark : ∀ char ∈ Text.ofInt number, char ≠ 'e' ∧ char ≠ 'E' := by
    intro char hchar
    rcases mem_ofInt hchar with rfl | hdigit
    · decide
    · exact ⟨ne_of_isDigit hdigit (by decide), ne_of_isDigit hdigit (by decide)⟩
  rw [read?, hpositional, readScientific?_eq_none hmark]
  exact orElse_failure _

end Read

/-! ## Writing -/

section Write

variable (decimal : Decimal)

/-- The digits of a decimal, at least one of them before the point. -/
def digits : Text := zeroPadded (decimal.scale + 1) (Text.ofNat decimal.magnitude)

/-- The digits before the point. -/
def wholeDigits : Text := decimal.digits.take (decimal.digits.length - decimal.scale)

/-- The digits after the point. -/
def placeDigits : Text := decimal.digits.drop (decimal.digits.length - decimal.scale)

theorem text_eq : decimal.text = (if decimal.negative then ['-'] else []) ++
    (decimal.wholeDigits ++ if decimal.scale = 0 then [] else '.' :: decimal.placeDigits) := rfl

theorem scale_lt_length_digits : decimal.scale < decimal.digits.length := by
  rw [digits, length_zeroPadded]
  omega

theorem isDigit_of_mem_digits {char : Char} (h : char ∈ decimal.digits) : char.isDigit :=
  isDigit_of_mem_zeroPadded (fun _ => isDigit_of_mem_ofNat) h

theorem wholeDigits_ne_nil : decimal.wholeDigits ≠ [] := by
  have hlt := decimal.scale_lt_length_digits
  intro hnil
  have hlength := congrArg List.length hnil
  rw [wholeDigits, List.length_take, List.length_nil] at hlength
  omega

theorem isDigit_of_mem_wholeDigits {char : Char} (h : char ∈ decimal.wholeDigits) : char.isDigit :=
  decimal.isDigit_of_mem_digits (List.mem_of_mem_take h)

theorem isDigit_of_mem_placeDigits {char : Char} (h : char ∈ decimal.placeDigits) : char.isDigit :=
  decimal.isDigit_of_mem_digits (List.mem_of_mem_drop h)

@[simp] theorem length_placeDigits : decimal.placeDigits.length = decimal.scale := by
  have hlt := decimal.scale_lt_length_digits
  rw [placeDigits, List.length_drop]
  omega

theorem placeDigits_eq_nil_iff : decimal.placeDigits = [] ↔ decimal.scale = 0 := by
  rw [← List.length_eq_zero_iff, length_placeDigits]

theorem ofDigitChars_placeDigits :
    Nat.ofDigitChars 10 decimal.placeDigits (digitsValue decimal.wholeDigits) =
      decimal.magnitude := by
  rw [← digitsValue_append, wholeDigits, placeDigits, List.take_append_drop, digits,
    digitsValue_zeroPadded, digitsValue_ofNat]

theorem digitsValue_wholeDigits_lt : digitsValue decimal.wholeDigits < magnitudeLimit := by
  have hle := le_ofDigitChars (digitsValue decimal.wholeDigits) decimal.placeDigits
  rw [ofDigitChars_placeDigits] at hle
  exact Nat.lt_of_le_of_lt hle decimal.magnitude_lt

theorem readPlaces?_placeDigits :
    readPlaces? (digitsValue decimal.wholeDigits) 0 decimal.placeDigits =
      some (decimal.magnitude, decimal.scale) := by
  have hmagnitude := decimal.ofDigitChars_placeDigits
  have hroom : Nat.ofDigitChars 10 decimal.placeDigits (digitsValue decimal.wholeDigits) <
      magnitudeLimit := hmagnitude ▸ decimal.magnitude_lt
  have hplaces : 0 + decimal.placeDigits.length ≤ maxScale := by
    rw [length_placeDigits, Nat.zero_add]
    exact decimal.scale_le
  rw [readPlaces?_of_isDigit (fun _ => decimal.isDigit_of_mem_placeDigits) hroom hplaces,
    hmagnitude, length_placeDigits, Nat.zero_add]

variable {decimal}

/-- A decimal without places is written as a whole number. -/
theorem text_eq_ofInt (hscale : decimal.scale = 0)
    (hsign : decimal.negative → decimal.magnitude ≠ 0) :
    decimal.text = Text.ofInt decimal.coefficient := by
  have hdigits : decimal.wholeDigits = Text.ofNat decimal.magnitude := by
    have hpos := List.length_pos_iff.mpr (ofNat_ne_nil decimal.magnitude)
    have hpadding : 0 + 1 - (Text.ofNat decimal.magnitude).length = 0 := by omega
    rw [wholeDigits, digits, hscale, Nat.sub_zero, List.take_length, zeroPadded, hpadding]
    rfl
  rw [text_eq, if_pos hscale, List.append_nil, hdigits, Text.ofInt, natAbs_coefficient, coefficient]
  cases hnegative : decimal.negative with
  | true =>
      have hne := hsign hnegative
      rw [if_pos rfl, if_pos rfl, if_pos (by omega)]
      rfl
  | false =>
      rw [if_neg Bool.false_ne_true, if_neg Bool.false_ne_true, if_neg (by omega)]
      rfl

/-- **Reading undoes writing**, also for the scale. -/
theorem read?_text (hsign : decimal.negative → decimal.magnitude ≠ 0) :
    read? decimal.text = some decimal := by
  have htail : (if decimal.scale = 0 then [] else '.' :: decimal.placeDigits) =
      '.' :: decimal.placeDigits ∨
      (if decimal.scale = 0 then [] else '.' :: decimal.placeDigits) = [] ∧
        decimal.placeDigits = [] := by
    by_cases hscale : decimal.scale = 0
    · right
      rw [if_pos hscale]
      exact ⟨rfl, decimal.placeDigits_eq_nil_iff.mpr hscale⟩
    · left
      rw [if_neg hscale]
  have hread : readPositional? decimal.text = some decimal := by
    rw [text_eq, readPositional?_append decimal.negative decimal.wholeDigits_ne_nil
      (fun _ => decimal.isDigit_of_mem_wholeDigits) (fun _ => decimal.isDigit_of_mem_placeDigits)
      htail, if_pos decimal.digitsValue_wholeDigits_lt, readPlaces?_placeDigits]
    exact of?_coefficient_scale hsign
  rw [read?, hread]
  rfl

end Write

end Decimal

end Invoicing
