import Invoicing.Invoice.Record
import Invoicing.Proofs.Calendar.Written
import Invoicing.Proofs.Json.Fields

/-!
# Records are read back

Rows, invoices, customers, companies and appearances are kept as texts of JSON objects.  Main
statement, `records_isKept`: reading such a text gives the record back, also when fields are missing
whose values stand for missing ones.

Each record needs three facts.  Its values are such that their texts are read back
(`isExact_toJson`), its fields are decoded to what they were (`ofJson?_toJson`), and decoding does
not see that fields are missing (`ofJson?_without`).  The last two go field by field, and every
kind of value is read back by itself: decimals with their scale (`Decimal.ofJson?_toJson`), dates of
any year (`Date.ofJson?_toJson`), choices, octets, and texts that may be `null`.

The sign of a zero is not read back, so the decimals of a record are no zeros with a minus sign.
-/

namespace Invoicing

open Json (IsExact MayOmit IsKept field?_without fieldOr?_without)

/-! ## Values of fields -/

namespace Json

variable {α : Type}

theorem mapM_map_eq_some {encode : α → Json} {decode : Json → Option α} {items : List α}
    (h : ∀ item ∈ items, decode (encode item) = some item) :
    (items.map encode).mapM decode = some items := by
  induction items with
  | nil => rfl
  | cons item items ih =>
      have hrest := ih fun other hother => h other (List.mem_cons_of_mem _ hother)
      simp [h item (List.mem_cons_self ..), hrest]

/-- A list is read back when its items are. -/
theorem listOf?_array_map {encode : α → Json} {decode : Json → Option α} {items : List α}
    (h : ∀ item ∈ items, decode (encode item) = some item) :
    listOf? decode (.array (items.map encode)) = some items :=
  mapM_map_eq_some h

theorem isExact_array_map {encode : α → Json} {items : List α}
    (h : ∀ item ∈ items, IsExact (encode item)) : IsExact (.array (items.map encode)) := by
  refine .array fun value hvalue => ?_
  obtain ⟨item, hitem, rfl⟩ := List.mem_map.mp hvalue
  exact h item hitem

@[simp] theorem nullable?_ofText? (content : Option Text) :
    nullable? text? (ofText? content) = some content := by
  cases content <;> rfl

@[simp] theorem isExact_ofText? (content : Option Text) : IsExact (ofText? content) := by
  cases content with
  | none => exact .null
  | some content => exact .string content

theorem octet?_ofNat_toNat (octet : UInt8) : octet? (ofNat octet.toNat) = some octet := by
  have hoctet : octet.toNat < 256 := octet.toNat_lt
  have hrange : (0 : Int) ≤ octet.toNat ∧ (octet.toNat : Int) < 256 := by omega
  rw [ofNat, octet?, if_pos hrange, Int.toNat_natCast, UInt8.ofNat_toNat]

theorem isExact_ofNat_toNat (octet : UInt8) : IsExact (ofNat octet.toNat) := by
  have hoctet : octet.toNat < 256 := octet.toNat_lt
  exact .whole (by omega) (by omega)

end Json

/-- A decimal keeps its sign, its digits and its scale. -/
theorem Decimal.ofJson?_toJson {decimal : Decimal}
    (hsign : decimal.negative → decimal.magnitude ≠ 0) : ofJson? decimal.toJson = some decimal :=
  read?_text hsign

@[simp] theorem Date.ofJson?_toJson (date : Date) : ofJson? date.toJson = some date :=
  read?_text date

@[simp] theorem Status.ofJson?_toJson (status : Status) : ofJson? status.toJson = some status := by
  cases status <;> decide

@[simp] theorem Layout.ofJson?_toJson (layout : Layout) : ofJson? layout.toJson = some layout := by
  cases layout <;> decide

@[simp] theorem Decimal.isExact_toJson (decimal : Decimal) : IsExact decimal.toJson := .string _

@[simp] theorem Date.isExact_toJson (date : Date) : IsExact date.toJson := .string _

@[simp] theorem Status.isExact_toJson (status : Status) : IsExact status.toJson := .string _

@[simp] theorem Layout.isExact_toJson (layout : Layout) : IsExact layout.toJson := .string _

/-! ## Rows -/

variable {omitted : List Text}

namespace LineItem

/-- What stands for missing fields: no field of a row may be missing. -/
def usual : Json := .record []

/-- The decimals of a row. -/
def decimals (item : LineItem) : List Decimal := [item.quantity, item.unitPrice]

@[simp] theorem isExact_toJson (item : LineItem) : IsExact item.toJson :=
  Json.isExact_record (by simp [IsExact.string])

theorem ofJson?_toJson {item : LineItem}
    (hsign : ∀ decimal ∈ item.decimals, decimal.negative → decimal.magnitude ≠ 0) :
    ofJson? item.toJson = some item := by
  have hquantity := Decimal.ofJson?_toJson (hsign item.quantity (by simp [decimals]))
  have hprice := Decimal.ofJson?_toJson (hsign item.unitPrice (by simp [decimals]))
  simp only [ofJson?, toJson, Json.field?_record]
  simp [List.lookup_cons, Json.text?, hquantity, hprice]

theorem ofJson?_without {item : LineItem}
    (homit : ∀ name ∈ omitted, MayOmit usual item.toJson name) :
    ofJson? (item.toJson.without omitted) = ofJson? item.toJson := by
  simp (disch := simp [usual, Json.field?_record]) only [ofJson?, field?_without homit]

end LineItem

/-! ## Invoices -/

namespace Invoice

/-- What stands for missing fields. -/
def usual : Json :=
  .record [
    ("line_items", .array []),
    ("tax_rate", Decimal.zero.toJson),
    ("amount_paid", Decimal.zero.toJson),
    ("notes", .null),
    ("status", Status.pending.toJson)]

/-- The decimals of an invoice and its rows. -/
def decimals (invoice : Invoice) : List Decimal :=
  invoice.taxRate :: invoice.amountPaid :: invoice.lineItems.flatMap LineItem.decimals

theorem isExact_toJson (invoice : Invoice) : IsExact invoice.toJson := by
  have hitems : IsExact (.array (invoice.lineItems.map LineItem.toJson)) :=
    Json.isExact_array_map fun item _ => item.isExact_toJson
  exact Json.isExact_record (by simp [IsExact.string, hitems])

theorem ofJson?_toJson {invoice : Invoice}
    (hsign : ∀ decimal ∈ invoice.decimals, decimal.negative → decimal.magnitude ≠ 0) :
    ofJson? invoice.toJson = some invoice := by
  have htax := Decimal.ofJson?_toJson (hsign invoice.taxRate (by simp [decimals]))
  have hpaid := Decimal.ofJson?_toJson (hsign invoice.amountPaid (by simp [decimals]))
  have hitems : Json.listOf? LineItem.ofJson? (.array (invoice.lineItems.map LineItem.toJson)) =
      some invoice.lineItems := by
    refine Json.listOf?_array_map fun item hitem => ?_
    refine LineItem.ofJson?_toJson fun decimal hdecimal => ?_
    have hmem : decimal ∈ invoice.lineItems.flatMap LineItem.decimals :=
      List.mem_flatMap.mpr ⟨item, hitem, hdecimal⟩
    exact hsign decimal (List.mem_cons_of_mem _ (List.mem_cons_of_mem _ hmem))
  simp only [ofJson?, toJson, Json.field?_record, Json.fieldOr?_record]
  simp [List.lookup_cons, Json.text?, htax, hpaid, hitems]

theorem ofJson?_without {invoice : Invoice}
    (homit : ∀ name ∈ omitted, MayOmit usual invoice.toJson name) :
    ofJson? (invoice.toJson.without omitted) = ofJson? invoice.toJson := by
  have hitems : Json.listOf? LineItem.ofJson? (.array []) = some [] := rfl
  have hzero : Decimal.ofJson? Decimal.zero.toJson = some .zero :=
    Decimal.ofJson?_toJson (by decide)
  have hnotes : Json.nullable? Json.text? .null = some none := rfl
  simp (disch := simp [usual, Json.field?_record, List.lookup_cons, hitems, hzero, hnotes]) only
    [ofJson?, field?_without homit, fieldOr?_without homit]

end Invoice

/-! ## Customers -/

namespace Customer

/-- What stands for missing fields. -/
def usual : Json := .record [("email", .null), ("address", .null)]

theorem isExact_toJson (customer : Customer) : IsExact customer.toJson :=
  Json.isExact_record (by simp [IsExact.string])

theorem ofJson?_toJson (customer : Customer) : ofJson? customer.toJson = some customer := by
  simp only [ofJson?, toJson, Json.field?_record, Json.fieldOr?_record]
  simp [List.lookup_cons, Json.text?]

theorem ofJson?_without {customer : Customer}
    (homit : ∀ name ∈ omitted, MayOmit usual customer.toJson name) :
    ofJson? (customer.toJson.without omitted) = ofJson? customer.toJson := by
  have hnone : Json.nullable? Json.text? .null = some none := rfl
  simp (disch := simp [usual, Json.field?_record, List.lookup_cons, hnone]) only
    [ofJson?, field?_without homit, fieldOr?_without homit]

end Customer

/-! ## Companies and appearances

Any of their fields may be missing, and what stands for it is the field of one fixed record. -/

namespace Company

@[simp] theorem nullable?_logoToJson (logo : Option (List UInt8)) :
    Json.nullable? (Json.listOf? Json.octet?) (logoToJson logo) = some logo := by
  cases logo with
  | none => rfl
  | some octets =>
      have hoctets : Json.listOf? Json.octet? (logoToJson (some octets)) = some octets :=
        Json.listOf?_array_map fun octet _ => Json.octet?_ofNat_toNat octet
      show (Json.listOf? Json.octet? (logoToJson (some octets))).map some = _
      rw [hoctets, Option.map_some]

@[simp] theorem isExact_logoToJson (logo : Option (List UInt8)) : IsExact (logoToJson logo) := by
  cases logo with
  | none => exact .null
  | some octets => exact Json.isExact_array_map fun octet _ => Json.isExact_ofNat_toNat octet

theorem isExact_toJson (company : Company) : IsExact company.toJson :=
  Json.isExact_record (by simp [IsExact.string])

theorem ofJson?_toJson (company : Company) : ofJson? company.toJson = some company := by
  have hobject : company.toJson.isObject = true := rfl
  simp only [ofJson?, hobject, guard_true, pure_bind]
  simp only [toJson, Json.fieldOr?_record]
  simp [List.lookup_cons, Json.text?]

theorem ofJson?_without {company : Company}
    (homit : ∀ name ∈ omitted, MayOmit unnamed.toJson company.toJson name) :
    ofJson? (company.toJson.without omitted) = ofJson? company.toJson := by
  simp (disch := simp [toJson, Json.field?_record, List.lookup_cons, Json.text?]) only
    [ofJson?, Json.isObject_without, fieldOr?_without homit]

end Company

namespace Appearance

theorem isExact_toJson (appearance : Appearance) : IsExact appearance.toJson :=
  Json.isExact_record (by simp [IsExact.string, IsExact.bool])

theorem ofJson?_toJson (appearance : Appearance) : ofJson? appearance.toJson = some appearance := by
  have hobject : appearance.toJson.isObject = true := rfl
  simp only [ofJson?, hobject, guard_true, pure_bind]
  simp only [toJson, Json.fieldOr?_record]
  simp [List.lookup_cons, Json.text?, Json.bool?]

theorem ofJson?_without {appearance : Appearance}
    (homit : ∀ name ∈ omitted, MayOmit standard.toJson appearance.toJson name) :
    ofJson? (appearance.toJson.without omitted) = ofJson? appearance.toJson := by
  simp (disch := simp [toJson, Json.field?_record, List.lookup_cons, Json.text?, Json.bool?]) only
    [ofJson?, Json.isObject_without, fieldOr?_without homit]

end Appearance

/-! ## All records -/

/-- **Records survive being kept**: what is read from the text of a record is the record, also when
any of the fields are missing whose values stand for missing ones. -/
theorem records_isKept :
    (∀ item : LineItem,
      (∀ decimal ∈ item.decimals, decimal.negative → decimal.magnitude ≠ 0) →
        IsKept LineItem.toJson LineItem.ofJson? LineItem.usual item) ∧
    (∀ invoice : Invoice,
      (∀ decimal ∈ invoice.decimals, decimal.negative → decimal.magnitude ≠ 0) →
        IsKept Invoice.toJson Invoice.ofJson? Invoice.usual invoice) ∧
    (∀ customer : Customer, IsKept Customer.toJson Customer.ofJson? Customer.usual customer) ∧
    (∀ company : Company,
      IsKept Company.toJson Company.ofJson? Company.unnamed.toJson company) ∧
    (∀ appearance : Appearance,
      IsKept Appearance.toJson Appearance.ofJson? Appearance.standard.toJson appearance) := by
  refine ⟨fun item hsign => ?_, fun invoice hsign => ?_, fun customer => ?_, fun company => ?_,
    fun appearance => ?_⟩
  · exact Json.isKept_of item.isExact_toJson (LineItem.ofJson?_toJson hsign)
      fun _ => LineItem.ofJson?_without
  · exact Json.isKept_of invoice.isExact_toJson (Invoice.ofJson?_toJson hsign)
      fun _ => Invoice.ofJson?_without
  · exact Json.isKept_of customer.isExact_toJson customer.ofJson?_toJson
      fun _ => Customer.ofJson?_without
  · exact Json.isKept_of company.isExact_toJson company.ofJson?_toJson
      fun _ => Company.ofJson?_without
  · exact Json.isKept_of appearance.isExact_toJson appearance.ofJson?_toJson
      fun _ => Appearance.ofJson?_without

/-- An invoice from before year 0 that is due in a year of five digits, with a negative price of 28
places. -/
def Invoice.longRunning : Invoice where
  id := "A\"1\n".toList
  customerId := []
  issueDate := ⟨-44, 3, 15, by decide⟩
  dueDate := ⟨10000, 2, 29, by decide⟩
  lineItems := [
    ⟨"Anvil".toList, ⟨false, 150, 2, by decide, by decide⟩, ⟨true, 999, 28, by decide, by decide⟩⟩]
  taxRate := .zero
  amountPaid := ⟨false, 0, 2, by decide, by decide⟩
  notes := none
  status := .pending

/-- Its tax rate and its state may be missing; the zero with places that was paid may not. -/
theorem longRunning_isKept :
    (∀ decimal ∈ Invoice.longRunning.decimals, decimal.negative → decimal.magnitude ≠ 0) ∧
    (∀ name ∈ ["tax_rate".toList, "status".toList],
      MayOmit Invoice.usual Invoice.longRunning.toJson name) ∧
    (Json.read? (Invoice.longRunning.toJson.without ["tax_rate".toList, "status".toList]).text).bind
      Invoice.ofJson? = some Invoice.longRunning := by
  have hsign : ∀ decimal ∈ Invoice.longRunning.decimals,
      decimal.negative → decimal.magnitude ≠ 0 := by
    decide
  have homit : ∀ name ∈ ["tax_rate".toList, "status".toList],
      MayOmit Invoice.usual Invoice.longRunning.toJson name := by
    simp only [List.forall_mem_cons]
    exact ⟨⟨_, rfl, rfl⟩, ⟨_, rfl, rfl⟩, nofun⟩
  exact ⟨hsign, homit, records_isKept.2.1 Invoice.longRunning hsign _ homit⟩

end Invoicing
