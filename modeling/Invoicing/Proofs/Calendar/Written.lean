import Invoicing.Calendar.Written
import Invoicing.Proofs.Decimal.Numeral

/-!
# Written dates are read back

Records keep a date as year, month and day with hyphens between them.  The hyphen is also a minus
sign, years have as many digits as they need, and a sign only outside 0 to 9999.  Reading undoes all
of it: `Date.read?_text` holds for every date of the calendar.

The reader takes digits as long as there are some, and at most two for a month or a day.  A year
without a sign has four digits, which is the most the reader takes there; a year with a sign may
have more, and the reader takes them all (`Date.readYear?_yearText_append`).
-/

namespace Invoicing

namespace Text

variable {char : Char} {digits rest : Text}

theorem isWhiteSpace_eq_false_of_isDigit (h : char.isDigit) : isWhiteSpace char = false := by
  simp only [Char.isDigit, Bool.and_eq_true, decide_eq_true_eq] at h
  have hlow : 48 ≤ char.toNat := h.1
  have hhigh : char.toNat ≤ 57 := h.2
  simp only [isWhiteSpace, whiteSpaceRanges, inRanges, List.any_cons, List.any_nil,
    Bool.or_eq_false_iff, Bool.and_eq_false_iff, decide_eq_false_iff_not, and_true]
  omega

theorem trimStart_cons_of_isDigit (h : char.isDigit) (rest : Text) :
    trimStart (char :: rest) = char :: rest := by
  have hspace := isWhiteSpace_eq_false_of_isDigit h
  rw [trimStart, List.dropWhile_cons_of_neg (by simp [hspace])]

/-- No white space stands in front of digits. -/
theorem trimStart_append_of_isDigit (hne : digits ≠ []) (hdigits : ∀ char ∈ digits, char.isDigit)
    (rest : Text) : trimStart (digits ++ rest) = digits ++ rest := by
  obtain ⟨head, more, rfl⟩ := List.exists_cons_of_ne_nil hne
  exact trimStart_cons_of_isDigit (hdigits head (List.mem_cons_self ..)) (more ++ rest)

theorem readDigits?_of_isDigit (hne : digits ≠ []) (hdigits : ∀ char ∈ digits, char.isDigit) :
    readDigits? digits = some (digitsValue digits) := by
  have hempty : digits.isEmpty = false := by simpa using hne
  have hall : digits.all Char.isDigit = true := List.all_eq_true.mpr hdigits
  simp [readDigits?, hempty, hall]

/-! ## Numbers of a width -/

variable (width number : ℕ)

theorem zeroPadded_ofNat_ne_nil : zeroPadded width (ofNat number) ≠ [] :=
  List.append_ne_nil_of_right_ne_nil _ (ofNat_ne_nil number)

theorem isDigit_of_mem_zeroPadded_ofNat : ∀ char ∈ zeroPadded width (ofNat number), char.isDigit :=
  fun _ => isDigit_of_mem_zeroPadded fun _ => isDigit_of_mem_ofNat

theorem digitsValue_zeroPadded_ofNat : digitsValue (zeroPadded width (ofNat number)) = number := by
  rw [digitsValue_zeroPadded, digitsValue_ofNat]

variable {width number}

/-- A number that fits a width is brought to that width. -/
theorem length_zeroPadded_ofNat (hwidth : 0 < width) (hlt : number < 10 ^ width) :
    (zeroPadded width (ofNat number)).length = width := by
  have hle : (ofNat number).length ≤ width :=
    (Nat.length_toDigits_le_iff (by decide) hwidth).mpr hlt
  rw [length_zeroPadded]
  exact Nat.max_eq_left hle

end Text

namespace Date

open Text

section Read

variable {digits rest : Text} {most number : ℕ}

/-- Digits are read up to the first character that is none. -/
theorem readDigits?_append (hne : digits ≠ []) (hdigits : ∀ char ∈ digits, char.isDigit)
    (hmost : digits.length ≤ most) (hstop : rest.takeWhile Char.isDigit = []) :
    readDigits? most (digits ++ rest) = some (digitsValue digits, rest) := by
  have htake : ((digits ++ rest).takeWhile Char.isDigit).take most = digits := by
    rw [List.takeWhile_append_of_pos hdigits, hstop, List.append_nil,
      List.take_of_length_le hmost]
  simp only [readDigits?, htake, Text.readDigits?_of_isDigit hne hdigits, Option.bind_eq_bind,
    Option.bind_some, Option.pure_def, List.drop_left]

/-- A month or a day is read back with the hyphen in front of it. -/
theorem readHyphen?_bind_readDigits? (hlt : number < 10 ^ 2)
    (hstop : rest.takeWhile Char.isDigit = []) :
    (readHyphen? ('-' :: (twoDigits number ++ rest))).bind (readDigits? 2) =
      some (number, rest) := by
  have hne : twoDigits number ≠ [] := zeroPadded_ofNat_ne_nil 2 number
  have hdigits : ∀ char ∈ twoDigits number, char.isDigit := isDigit_of_mem_zeroPadded_ofNat 2 number
  have hlength : (twoDigits number).length ≤ 2 :=
    Nat.le_of_eq (length_zeroPadded_ofNat (by decide) hlt)
  have hhyphen : readHyphen? ('-' :: (twoDigits number ++ rest)) =
      some (twoDigits number ++ rest) := by
    have htrim : trimStart ('-' :: (twoDigits number ++ rest)) =
        '-' :: (twoDigits number ++ rest) := rfl
    rw [readHyphen?, htrim]
    simp only [trimStart_append_of_isDigit hne hdigits]
  rw [hhyphen, Option.bind_some, readDigits?_append hne hdigits hlength hstop,
    twoDigits, digitsValue_zeroPadded_ofNat]

theorem readYear?_of_isDigit {head : Char} (h : head.isDigit) (rest : Text) :
    readYear? (head :: rest) =
      (readDigits? 4 (head :: rest)).map fun (year, rest) => ((year : Int), rest) := by
  have hminus : head ≠ '-' := ne_of_isDigit h (by decide)
  have hplus : head ≠ '+' := ne_of_isDigit h (by decide)
  unfold readYear?
  split <;> simp_all

/-- A year is read back, with or without a sign. -/
theorem readYear?_yearText_append (year : Int) (hstop : rest.takeWhile Char.isDigit = []) :
    readYear? (yearText year ++ rest) = some (year, rest) := by
  let digits := zeroPadded 4 (ofNat year.natAbs)
  have hne : digits ≠ [] := zeroPadded_ofNat_ne_nil 4 year.natAbs
  have hdigits : ∀ char ∈ digits, char.isDigit := isDigit_of_mem_zeroPadded_ofNat 4 year.natAbs
  have hvalue : digitsValue digits = year.natAbs := digitsValue_zeroPadded_ofNat 4 year.natAbs
  -- behind a sign the reader takes as many digits as there are
  have hsigned :
      readDigits? (digits ++ rest).length (digits ++ rest) = some (year.natAbs, rest) := by
    have hmost : digits.length ≤ (digits ++ rest).length := by
      rw [List.length_append]
      exact Nat.le_add_right _ _
    rw [readDigits?_append hne hdigits hmost hstop, hvalue]
  rw [yearText]
  split
  · next hnegative =>
      have habs : -(year.natAbs : Int) = year := by omega
      show (readDigits? (digits ++ rest).length (digits ++ rest)).map _ = _
      rw [hsigned]
      exact congrArg (fun written => some (written, rest)) habs
  · next hnonneg =>
      have habs : (year.natAbs : Int) = year := by omega
      split
      · next hsmall =>
          have hlength : digits.length ≤ 4 :=
            Nat.le_of_eq (length_zeroPadded_ofNat (by decide) (by omega))
          obtain ⟨head, more, hcons⟩ := List.exists_cons_of_ne_nil hne
          have hhead : head.isDigit := hdigits head (by simp [hcons])
          have hread := readDigits?_append hne hdigits hlength hstop
          show readYear? (digits ++ rest) = _
          rw [hcons, List.cons_append] at hread ⊢
          rw [readYear?_of_isDigit hhead, hread, ← hcons, hvalue]
          exact congrArg (fun written => some (written, rest)) habs
      · next hlarge =>
          show (readDigits? (digits ++ rest).length (digits ++ rest)).map _ = _
          rw [hsigned]
          exact congrArg (fun written => some (written, rest)) habs

end Read

theorem trimStart_yearText_append (year : Int) (rest : Text) :
    trimStart (yearText year ++ rest) = yearText year ++ rest := by
  have hdigits := trimStart_append_of_isDigit (zeroPadded_ofNat_ne_nil 4 year.natAbs)
    (isDigit_of_mem_zeroPadded_ofNat 4 year.natAbs) rest
  rw [yearText]
  split
  · rfl
  · split
    · exact hdigits
    · rfl

theorem daysInMonth_le (year : Int) (month : ℕ) : daysInMonth year month ≤ 31 := by
  unfold daysInMonth
  split
  · split <;> decide
  · split <;> decide

/-- **Reading a date undoes writing it**, for every date of the calendar. -/
theorem read?_text (date : Date) : read? date.text = some date := by
  obtain ⟨hyear, hmonth, hday⟩ := date.isDay
  have hmonths : date.month < 10 ^ 2 := by omega
  have hdays : date.day < 10 ^ 2 := by
    have hle := daysInMonth_le date.year date.month
    omega
  have hof : of? date.year date.month date.day = some date := of?_eq_some_iff.mpr ⟨rfl, rfl, rfl⟩
  have hreadYear (rest : Text) :
      readYear? (yearText date.year ++ '-' :: rest) = some (date.year, '-' :: rest) :=
    readYear?_yearText_append date.year rfl
  have hreadMonth (rest : Text) : (readHyphen? ('-' :: (twoDigits date.month ++ '-' :: rest))).bind
      (readDigits? 2) = some (date.month, '-' :: rest) :=
    readHyphen?_bind_readDigits? hmonths rfl
  have hreadDay : (readHyphen? ('-' :: (twoDigits date.day ++ []))).bind (readDigits? 2) =
      some (date.day, []) :=
    readHyphen?_bind_readDigits? hdays rfl
  rw [List.append_nil] at hreadDay
  simp only [read?, text, trimStart_yearText_append, Option.bind_eq_bind, hreadYear, hreadMonth,
    hreadDay, Option.bind_some, isBlank_nil, guard_true, Option.pure_def, hof]

end Date

end Invoicing
