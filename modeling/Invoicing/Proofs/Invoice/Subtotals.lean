import Invoicing.Invoice.Totals
import Invoicing.Proofs.Decimal.Exact
import Mathlib.Algebra.Order.BigOperators.Group.List
import Mathlib.Data.List.MinMax

/-!
# Subtotals that lose nothing

A subtotal is a sum of products, taken from the first row to the last, and every step may round or
saturate.  So the order of the rows matters, in general.

It does not as long as there is room (`Invoice.HasRoom`): all rows can be written with the places
of the row that has most, and the sum of their magnitudes too.  Main statement:
`Invoice.value_subtotal`.  With room, the subtotal is the exact sum, whatever the order of the rows,
and it can be taken in two parts.

## Strategy

The invariant of the sum is its scale and its magnitude.  The scale never exceeds that of the row
with most places, since a sum has no more places than its operands (`Decimal.scale_add_le`).  The
magnitude is bounded by the magnitudes summed so far, so it is enough to have room for all of them
at once, whatever their signs (`Decimal.value_foldl_add`).
-/

namespace Invoicing

namespace Decimal

variable {amounts : List Decimal} {start : Decimal} {places : ℕ}

theorem scale_foldl_add_le (hstart : start.scale ≤ places)
    (hamounts : ∀ amount ∈ amounts, amount.scale ≤ places) :
    (amounts.foldl add start).scale ≤ places := by
  induction amounts generalizing start with
  | nil => exact hstart
  | cons amount rest ih =>
      obtain ⟨hamount, hrest⟩ := List.forall_mem_cons.mp hamounts
      exact ih (scale_add_le hstart hamount) hrest

/-- **A running sum is exact** when there is room for all the magnitudes at once. -/
theorem value_foldl_add (hstart : start.scale ≤ places)
    (hamounts : ∀ amount ∈ amounts, amount.scale ≤ places)
    (hroom : (|start.value| + (amounts.map fun amount => |amount.value|).sum) * 10 ^ places <
      magnitudeLimit) :
    (amounts.foldl add start).value = start.value + (amounts.map value).sum := by
  induction amounts generalizing start with
  | nil => simp
  | cons amount rest ih =>
      obtain ⟨hamount, hrest⟩ := List.forall_mem_cons.mp hamounts
      have hten := ten_pow_pos places
      have hnonneg : 0 ≤ (rest.map fun amount => |amount.value|).sum :=
        List.sum_nonneg (by simp)
      have hsum : |start.value + amount.value| ≤ |start.value| + |amount.value| := abs_add_le _ _
      rw [List.map_cons, List.sum_cons, ← add_assoc] at hroom
      have hadd : (start.add amount).value = start.value + amount.value := by
        refine value_add_of_room hstart hamount (lt_of_le_of_lt ?_ hroom)
        gcongr
        linarith
      rw [List.foldl_cons, ih (scale_add_le hstart hamount) hrest, hadd, List.map_cons,
        List.sum_cons, add_assoc]
      refine lt_of_le_of_lt ?_ hroom
      rw [hadd]
      gcongr

end Decimal

open Decimal

/-! ## The rows -/

namespace LineItem

/-- The exact amount of a row. -/
def worth (item : LineItem) : ℚ := item.quantity.value * item.unitPrice.value

/-- The places of the quantity and the price together. -/
def places (item : LineItem) : ℕ := item.quantity.scale + item.unitPrice.scale

theorem scale_amount_le (item : LineItem) : item.amount.scale ≤ item.places := scale_mul_le _ _

/-- A row that can be written with all its places is not rounded. -/
theorem value_amount {item : LineItem} (hplaces : item.places ≤ maxScale)
    (hroom : |item.worth| * 10 ^ item.places < magnitudeLimit) : item.amount.value = item.worth := by
  have hworth : (item.quantity.coefficient * item.unitPrice.coefficient : ℤ) / 10 ^ item.places =
      item.worth := by
    rw [worth, value, value, places, div_mul_div_comm, pow_add]
    push_cast
    rfl
  have hlt : (item.quantity.coefficient * item.unitPrice.coefficient).natAbs < magnitudeLimit :=
    natAbs_lt_of_room (by rwa [hworth])
  obtain ⟨product, hproduct⟩ := exists_value_eq hlt hplaces
  exact value_mul (hproduct.trans hworth)

/-- The magnitudes of some rows together. -/
def turnover (items : List LineItem) : ℚ := (items.map fun item => |item.worth|).sum

theorem turnover_nonneg (items : List LineItem) : 0 ≤ turnover items := List.sum_nonneg (by simp)

theorem abs_sum_worth_le (items : List LineItem) :
    |(items.map worth).sum| ≤ turnover items := by
  induction items with
  | nil => simp [turnover]
  | cons item rest ih =>
      rw [turnover] at ih ⊢
      rw [List.map_cons, List.map_cons, List.sum_cons, List.sum_cons]
      exact (abs_add_le _ _).trans (add_le_add_right ih _)

theorem turnover_le_of_subperm {fewer items : List LineItem} (h : fewer.Subperm items) :
    turnover fewer ≤ turnover items := by
  obtain ⟨same, hperm, hsublist⟩ := h
  calc turnover fewer = turnover same := (hperm.map _).sum_eq.symm
    _ ≤ turnover items := (hsublist.map _).sum_le_sum (by simp)

theorem abs_worth_le_turnover {item : LineItem} {items : List LineItem} (h : item ∈ items) :
    |item.worth| ≤ turnover items := by
  calc |item.worth| = turnover [item] := by rw [turnover, List.map_singleton, List.sum_singleton]
    _ ≤ turnover items := turnover_le_of_subperm (List.singleton_subperm_iff.mpr h)

end LineItem

/-! ## The subtotal -/

namespace Invoice

/-- The places of the row that has most. -/
def places (invoice : Invoice) : ℕ := (invoice.lineItems.map LineItem.places).foldr max 0

theorem places_le_of_mem {invoice : Invoice} {item : LineItem} (h : item ∈ invoice.lineItems) :
    item.places ≤ invoice.places :=
  List.le_max_of_le (List.mem_map_of_mem h) le_rfl

/-- There is room for the magnitudes of all rows at once, with all the places. -/
structure HasRoom (invoice : Invoice) : Prop where
  /-- No row has too many places. -/
  places_le : invoice.places ≤ maxScale
  /-- All magnitudes together have not too many digits. -/
  turnover_lt : LineItem.turnover invoice.lineItems * 10 ^ invoice.places < magnitudeLimit

/-- The invoice with other rows. -/
def withRows (invoice : Invoice) (items : List LineItem) : Invoice :=
  { invoice with lineItems := items }

/-- Where there is room for all rows, there is room for some of them in any order. -/
theorem value_subtotal_withRows {invoice : Invoice} {items : List LineItem}
    (hroom : invoice.HasRoom) (hitems : items.Subperm invoice.lineItems) :
    (invoice.withRows items).subtotal.value = (items.map LineItem.worth).sum ∧
      (invoice.withRows items).subtotal.scale ≤ invoice.places := by
  have hplaces : ∀ item ∈ items, item.places ≤ invoice.places := fun item hitem =>
    places_le_of_mem (hitems.subset hitem)
  have hturnover : LineItem.turnover items * 10 ^ invoice.places < magnitudeLimit := by
    refine lt_of_le_of_lt ?_ hroom.turnover_lt
    gcongr
    exact LineItem.turnover_le_of_subperm hitems
  have hvalue : ∀ item ∈ items, item.amount.value = item.worth := by
    intro item hitem
    refine LineItem.value_amount ((hplaces item hitem).trans hroom.places_le)
      (lt_of_le_of_lt ?_ hturnover)
    gcongr
    · exact LineItem.turnover_nonneg _
    · exact LineItem.abs_worth_le_turnover hitem
    · norm_num
    · exact hplaces item hitem
  have hscale : ∀ amount ∈ items.map LineItem.amount, amount.scale ≤ invoice.places := by
    intro amount hamount
    obtain ⟨item, hitem, rfl⟩ := List.mem_map.mp hamount
    exact item.scale_amount_le.trans (hplaces item hitem)
  have hvalues : (items.map LineItem.amount).map value = items.map LineItem.worth := by
    rw [List.map_map]
    exact List.map_congr_left hvalue
  have hmagnitudes : ((items.map LineItem.amount).map fun amount => |amount.value|).sum =
      LineItem.turnover items := by
    rw [List.map_map, LineItem.turnover]
    congr 1
    refine List.map_congr_left fun item hitem => ?_
    rw [Function.comp_apply, hvalue item hitem]
  have hzero : Decimal.zero.value = 0 := value_eq_zero_iff.mpr rfl
  constructor
  · rw [subtotal, withRows, value_foldl_add (Nat.zero_le _) hscale, hzero, zero_add, hvalues]
    rwa [hzero, abs_zero, zero_add, hmagnitudes]
  · exact scale_foldl_add_le (Nat.zero_le _) hscale

/-- **With room, the subtotal is the sum of the rows**, in whatever order they are taken and in
however two parts. -/
theorem value_subtotal {invoice : Invoice} (hroom : invoice.HasRoom) :
    invoice.subtotal.value = (invoice.lineItems.map LineItem.worth).sum ∧
    (∀ items, items.Perm invoice.lineItems →
      (invoice.withRows items).subtotal.value = invoice.subtotal.value) ∧
    ∀ first second, (first ++ second).Perm invoice.lineItems →
      invoice.subtotal.value =
          (invoice.withRows first).subtotal.value + (invoice.withRows second).subtotal.value ∧
        invoice.subtotal.value =
          ((invoice.withRows first).subtotal.add (invoice.withRows second).subtotal).value := by
  have hwhole : invoice.subtotal.value = (invoice.lineItems.map LineItem.worth).sum :=
    (value_subtotal_withRows hroom (List.Subperm.refl _)).1
  refine ⟨hwhole, ?_, ?_⟩
  · intro items hperm
    rw [hwhole, (value_subtotal_withRows hroom hperm.subperm).1]
    exact (hperm.map _).sum_eq
  · intro first second hperm
    obtain ⟨hfirst, hfirstScale⟩ := value_subtotal_withRows hroom
      ((List.sublist_append_left first second).subperm.trans hperm.subperm)
    obtain ⟨hsecond, hsecondScale⟩ := value_subtotal_withRows hroom
      ((List.sublist_append_right first second).subperm.trans hperm.subperm)
    have hsum : invoice.subtotal.value =
        (invoice.withRows first).subtotal.value + (invoice.withRows second).subtotal.value := by
      rw [hwhole, hfirst, hsecond, ← List.sum_append, ← List.map_append]
      exact (hperm.map _).sum_eq.symm
    refine ⟨hsum, ?_⟩
    rw [value_add_of_room hfirstScale hsecondScale, hsum]
    rw [← hsum, hwhole]
    refine lt_of_le_of_lt ?_ hroom.turnover_lt
    gcongr
    exact LineItem.abs_sum_worth_le _

/-! ### Rows of both signs -/

/-- An invoice with a part that is taken back, a row for nothing and a row that fills the places. -/
def mixedRows : Invoice where
  id := "R-3".toList
  customerId := "C-1".toList
  issueDate := ⟨2023, 4, 1, by decide⟩
  dueDate := ⟨2023, 4, 30, by decide⟩
  lineItems := [
    ⟨"Flour".toList, .ofNat 3, ⟨false, 40990, 4, by decide, by decide⟩⟩,
    ⟨"Returned".toList, ⟨true, 25000, 4, by decide, by decide⟩, .ofNat 3⟩,
    ⟨"Sample".toList, .zero, .ofNat 9⟩,
    ⟨"Gold".toList, ⟨false, 7, 13, by decide, by decide⟩, ⟨false, 7, 14, by decide, by decide⟩⟩]
  taxRate := .zero
  amountPaid := .zero
  notes := none
  status := .pending

theorem hasRoom_mixedRows : mixedRows.HasRoom := by
  constructor
  · decide
  · have hplaces : mixedRows.places = 27 := by decide
    rw [hplaces]
    norm_num [mixedRows, LineItem.turnover, LineItem.worth, value, coefficient, ofNat, zero,
      magnitudeLimit]

theorem value_subtotal_mixedRows :
    mixedRows.HasRoom ∧
      mixedRows.subtotal.value = (mixedRows.lineItems.map LineItem.worth).sum ∧
      (mixedRows.withRows mixedRows.lineItems.reverse).subtotal.value =
        mixedRows.subtotal.value := by
  obtain ⟨hsum, hperm, -⟩ := value_subtotal hasRoom_mixedRows
  exact ⟨hasRoom_mixedRows, hsum, hperm _ (List.reverse_perm _)⟩

end Invoice

end Invoicing
