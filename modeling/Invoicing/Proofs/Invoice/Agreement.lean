import Invoicing.Invoice.PlainText
import Invoicing.Invoice.Sample
import Invoicing.Proofs.Invoice.Bindings
import Invoicing.Proofs.Template.Meaning

/-!
# The plain text of a bill as a template

The plain text of a bill is put together directly, and the markup by a template.
`plainOutline` is the template that asks for the same lines.  The two ways agree
(`markup_withBody_plainOutline`), so the template language can say all that the direct way does:
a line that a flag guards, a line that is left out when it is blank, one pair of lines for
each row.

## Strategy

The template is an outline, and an outline shows what it means as long as its repeated block,
the one over the rows, shows settled values.  The rows do so when neither the currency symbol
nor a description holds an opening brace.  What is left is to evaluate the outline, part by
part, where each part is one of the functions that the plain text is made of.
-/

namespace Invoicing

namespace Bill

open Outline

/-! ## The template -/

/-- Literal text. -/
def words (content : Text) : Node := .piece (.text content)

/-- A label and a value on one line. -/
def fieldLine (label name : String) : Outline := [text label, value name, words (line [])]

/-- A value on a line of its own, guarded by its own name. -/
def ownLine (name : String) : Node := whenTrue name [val name, lit "\n"]

/-- The title and the company. -/
def headingOutline : Outline :=
  [value "HeaderText", words (line []), words (line thickRule), value "CompanyName",
    words (line []), whenTrue "ShowCompanyAddress" [val "CompanyAddress", lit "\n"],
    ownLine "CompanyEmail", ownLine "CompanyPhone"]

/-- The number, the dates and the state of the invoice. -/
def invoiceOutline : Outline :=
  fieldLine "Invoice #: " "InvoiceNumber" ++ (fieldLine "Issue Date: " "IssueDate" ++
    (whenTrue "ShowDueDate" [lit "Due Date: ", val "DueDate", lit "\n"] ::
      (fieldLine "Status: " "Status" ++ [whenTrue "IsOverdue" [lit "*** OVERDUE ***\n"]])))

/-- The customer. -/
def customerOutline : Outline :=
  [words (line "Bill To:".toList), value "CustomerName", words (line []),
    ownLine "CustomerEmail", ownLine "CustomerAddress"]

/-- The two lines of a row. -/
def rowPieces : List Piece :=
  [val "Description", lit "\n  ", val "Quantity", lit " x ", val "UnitPrice", lit " = ",
    val "Amount", lit "\n"]

/-- The rows between thin rules. -/
def itemOutline : Outline :=
  [words (line "Items:".toList), words (line thinRule), whenTrue "LineItems" rowPieces,
    words (line thinRule)]

/-- The totals. -/
def totalOutline : Outline :=
  fieldLine "Subtotal: " "Subtotal" ++
    (whenTrue "ShowTaxBreakdown"
        [lit "Tax (", val "TaxRate", lit "%): ", val "TaxAmount", lit "\n"] ::
      (fieldLine "Total: " "Total" ++
        (whenTrue "AmountPaid" [lit "Amount Paid: ", val "AmountPaidFormatted", lit "\n"] ::
          fieldLine "Balance Due: " "Balance")))

/-- The notes and the payment instructions, each under a heading. -/
def remarkOutline : Outline :=
  [whenTrue "ShowNotes" [lit "\nNotes:\n", val "Notes", lit "\n"],
    whenTrue "ShowPaymentInstructions"
      [lit "\nPayment Instructions:\n", val "PaymentInstructions", lit "\n"]]

/-- The closing line. -/
def closingOutline : Outline :=
  [words (line []), words (line thickRule), value "FooterText", words (line [])]

/-- The plain text of a bill, with names in place of what the bill fills in. -/
def plainOutline : Outline :=
  headingOutline ++ (words (line []) :: (invoiceOutline ++ (words (line []) ::
    (customerOutline ++ (words (line []) :: (itemOutline ++ (totalOutline ++ (remarkOutline ++
      closingOutline))))))))

/-- The bill with a template text in place of that of its layout. -/
def withBody (bill : Bill) (body : Text) : Bill :=
  { bill with appearance := { bill.appearance with customBody := some body } }

/-! ## What the parts show -/

section Evaluate

variable (bill : Bill)

/-- What an outline shows of a bill. -/
def shown (outline : Outline) : Text := outline.evaluate (.ofContext bill.context)

/-- What the body of a kept block shows of a bill. -/
def shownPieces (pieces : List Piece) : Text := Piece.evaluateAll (.ofContext bill.context) pieces

@[simp] theorem shown_nil : bill.shown [] = [] := rfl

@[simp] theorem shown_append (first second : Outline) :
    bill.shown (first ++ second) = bill.shown first ++ bill.shown second :=
  List.flatMap_append

@[simp] theorem shown_words (content : Text) (rest : Outline) :
    bill.shown (words content :: rest) = content ++ bill.shown rest := rfl

@[simp] theorem shownPieces_nil : bill.shownPieces [] = [] := rfl

@[simp] theorem shownPieces_lit (content : String) (rest : List Piece) :
    bill.shownPieces (lit content :: rest) = content.toList ++ bill.shownPieces rest := rfl

variable {bill} {name : String} {binding : Binding} {content : Text} {flag : Bool}

theorem shown_value (h : (name.toList, binding) ∈ bill.bindings) (rest : Outline) :
    bill.shown (value name :: rest) = binding.toText ++ bill.shown rest := by
  have hvalue : (Scope.ofContext bill.context).toText name.toList = binding.toText := by
    rw [Scope.toText, bill.lookup?_context_of_mem h]
    rfl
  rw [← hvalue]
  rfl

theorem shownPieces_val (h : (name.toList, binding) ∈ bill.bindings) (rest : List Piece) :
    bill.shownPieces (val name :: rest) = binding.toText ++ bill.shownPieces rest := by
  have hvalue : (Scope.ofContext bill.context).toText name.toList = binding.toText := by
    rw [Scope.toText, bill.lookup?_context_of_mem h]
    rfl
  rw [← hvalue]
  rfl

theorem shown_fieldLine (h : (name.toList, .ofText content) ∈ bill.bindings) (label : String) :
    bill.shown (fieldLine label name) = labelled label content := by
  have hvalue := shown_value h [words (line [])]
  show label.toList ++ bill.shown (value name :: [words (line [])]) = _
  rw [hvalue, Binding.toText_ofText, shown_words, shown_nil]
  simp [labelled, line]

/-- A block over a single value shows its body when the value counts as true. -/
theorem shown_whenTrue {held : Scalar} (h : (name.toList, .scalar held) ∈ bill.bindings)
    (body : List Piece) (rest : Outline) :
    bill.shown (whenTrue name body :: rest) =
      shownIf held.isTruthy (bill.shownPieces body) ++ bill.shown rest := by
  have hnode : (whenTrue name body).evaluate (.ofContext bill.context) =
      shownIf held.isTruthy (bill.shownPieces body) := by
    rw [whenTrue, Node.evaluate, bill.lookup?_context_of_mem h]
    rfl
  rw [← hnode]
  rfl

/-- A block over a sequence shows its body once for each element. -/
theorem shown_repeated {items : List Context} (h : (name.toList, .sequence items) ∈ bill.bindings)
    (body : List Piece) (rest : Outline) :
    bill.shown (whenTrue name body :: rest) =
      (items.flatMap fun item =>
        Piece.evaluateAll ((Scope.ofContext bill.context).push item) body) ++
          bill.shown rest := by
  have hnode : (whenTrue name body).evaluate (.ofContext bill.context) =
      items.flatMap fun item =>
        Piece.evaluateAll ((Scope.ofContext bill.context).push item) body := by
    rw [whenTrue, Node.evaluate, bill.lookup?_context_of_mem h]
  rw [← hnode]
  rfl

theorem shown_ownLine (h : (name.toList, .ofText content) ∈ bill.bindings) (rest : Outline) :
    bill.shown (ownLine name :: rest) = lineUnlessBlank content ++ bill.shown rest := by
  have hbody : bill.shownPieces [val name, lit "\n"] = line content := by
    rw [shownPieces_val h, Binding.toText_ofText, shownPieces_lit, shownPieces_nil, line]
    rfl
  have htruthy : (Scalar.text content).isTruthy = !Text.isBlank content := rfl
  rw [ownLine, shown_whenTrue h, hbody, htruthy]
  cases hblank : Text.isBlank content <;> simp [shownIf, lineUnlessBlank, hblank]

/-- A line for what may be missing is left out then. -/
theorem shown_ownLine? {content : Option Text} (h : (name.toList, .ofText? content) ∈ bill.bindings)
    (rest : Outline) :
    bill.shown (ownLine name :: rest) = lineUnlessBlank (content.getD []) ++ bill.shown rest := by
  cases content with
  | some content => exact shown_ownLine h rest
  | none =>
      have hblank : lineUnlessBlank [] = [] := by decide
      rw [ownLine, shown_whenTrue h, Option.getD_none, hblank]
      rfl

end Evaluate

section Parts

variable (bill : Bill)

/-- The address of the company only shows when it is not blank. -/
theorem shownIf_showsCompanyAddress :
    shownIf bill.showsCompanyAddress (lineUnlessBlank bill.company.address) =
      shownIf bill.showsCompanyAddress (line bill.company.address) := by
  unfold showsCompanyAddress shownIf lineUnlessBlank
  cases Text.isBlank bill.company.address <;> simp

theorem shown_headingOutline : bill.shown headingOutline = bill.headingLines := by
  obtain ⟨hheader, hname, hshows, haddress, hemail, hphone⟩ :
      ("HeaderText".toList, .ofText bill.appearance.headerText) ∈ bill.bindings ∧
      ("CompanyName".toList, .ofText bill.company.name) ∈ bill.bindings ∧
      ("ShowCompanyAddress".toList, .ofBool bill.showsCompanyAddress) ∈ bill.bindings ∧
      ("CompanyAddress".toList, .ofText bill.company.address) ∈ bill.bindings ∧
      ("CompanyEmail".toList, .ofText bill.company.email) ∈ bill.bindings ∧
      ("CompanyPhone".toList, .ofText bill.company.phone) ∈ bill.bindings := by
    simp only [bindings, List.mem_cons, true_or, or_true, and_self]
  have hbody : bill.shownPieces [val "CompanyAddress", lit "\n"] = line bill.company.address := by
    rw [shownPieces_val haddress, Binding.toText_ofText, shownPieces_lit, shownPieces_nil, line]
    rfl
  rw [headingOutline, shown_value hheader, shown_words, shown_words, shown_value hname,
    shown_words, shown_whenTrue hshows, hbody, shown_ownLine hemail, shown_ownLine hphone,
    shown_nil, headingLines, shownIf_showsCompanyAddress]
  simp [line, Scalar.isTruthy]

theorem shown_invoiceOutline : bill.shown invoiceOutline = bill.invoiceLines := by
  obtain ⟨hid, hissue, hshows, hdue, hstatus, hoverdue⟩ :
      ("InvoiceNumber".toList, .ofText bill.invoice.id) ∈ bill.bindings ∧
      ("IssueDate".toList, .ofText bill.invoice.issueDate.shortText) ∈ bill.bindings ∧
      ("ShowDueDate".toList, .ofBool bill.appearance.showDueDate) ∈ bill.bindings ∧
      ("DueDate".toList, .ofText bill.invoice.dueDate.shortText) ∈ bill.bindings ∧
      ("Status".toList, .ofText bill.invoice.status.name) ∈ bill.bindings ∧
      ("IsOverdue".toList, .ofBool bill.isOverdue) ∈ bill.bindings := by
    simp only [bindings, List.mem_cons, true_or, or_true, and_self]
  have hdueLine : bill.shownPieces [lit "Due Date: ", val "DueDate", lit "\n"] =
      labelled "Due Date: " bill.invoice.dueDate.shortText := by
    rw [shownPieces_lit, shownPieces_val hdue, Binding.toText_ofText, shownPieces_lit,
      shownPieces_nil]
    simp [labelled, line]
  have hoverdueLine : bill.shownPieces [lit "*** OVERDUE ***\n"] =
      line "*** OVERDUE ***".toList := by
    simp [line]
  rw [invoiceOutline, shown_append, shown_append, shown_fieldLine hid, shown_fieldLine hissue,
    shown_whenTrue hshows, hdueLine, shown_append, shown_fieldLine hstatus,
    shown_whenTrue hoverdue, hoverdueLine, shown_nil, List.append_nil]
  rfl

theorem shown_customerOutline : bill.shown customerOutline = bill.customerLines := by
  obtain ⟨hname, hemail, haddress⟩ :
      ("CustomerName".toList, .ofText bill.customerName) ∈ bill.bindings ∧
      ("CustomerEmail".toList, .ofText? (bill.customer >>= Customer.email)) ∈ bill.bindings ∧
      ("CustomerAddress".toList, .ofText? (bill.customer >>= Customer.address)) ∈
        bill.bindings := by
    simp only [bindings, List.mem_cons, true_or, or_true, and_self]
  rw [customerOutline, shown_words, shown_value hname, shown_words, shown_ownLine? hemail,
    shown_ownLine? haddress, shown_nil, customerLines]
  simp [line]

/-- A row shows the same two lines in the scope of the bill. -/
theorem evaluateAll_rowPieces (item : LineItem) :
    Piece.evaluateAll ((Scope.ofContext bill.context).push (item.context bill.symbol)) rowPieces =
      bill.rowLines item := by
  let scope := (Scope.ofContext bill.context).push (item.context bill.symbol)
  obtain ⟨hdescription, hquantity, hprice, hamount⟩ :
      ("Description".toList, .ofText item.description) ∈ item.bindings bill.symbol ∧
      ("Quantity".toList, .ofText (Figure.trimmed item.quantity)) ∈
        item.bindings bill.symbol ∧
      ("UnitPrice".toList, .ofText (bill.money item.unitPrice)) ∈ item.bindings bill.symbol ∧
      ("Amount".toList, .ofText (bill.money item.amount)) ∈ item.bindings bill.symbol := by
    simp only [LineItem.bindings, money, List.mem_cons, true_or, or_true, and_self]
  have hpieces : Piece.evaluateAll scope rowPieces =
      scope.toText "Description".toList ++ ("\n  ".toList ++
        (scope.toText "Quantity".toList ++ (" x ".toList ++
          (scope.toText "UnitPrice".toList ++ (" = ".toList ++
            (scope.toText "Amount".toList ++ ['\n'])))))) := rfl
  rw [hpieces, item.toText_push_context _ hdescription, item.toText_push_context _ hquantity,
    item.toText_push_context _ hprice, item.toText_push_context _ hamount,
    Binding.toText_ofText, Binding.toText_ofText, Binding.toText_ofText, Binding.toText_ofText]
  simp [rowLines, line]

theorem shown_itemOutline : bill.shown itemOutline = bill.itemLines := by
  have hitems : ("LineItems".toList,
      .sequence (bill.invoice.lineItems.map (·.context bill.symbol))) ∈ bill.bindings := by
    simp only [bindings, List.mem_cons, true_or, or_true]
  rw [itemOutline, shown_words, shown_words, shown_repeated hitems, shown_words, shown_nil,
    itemLines, List.flatMap_map, List.append_nil]
  simp only [evaluateAll_rowPieces]

theorem shown_totalOutline : bill.shown totalOutline = bill.totalLines := by
  obtain ⟨hsubtotal, hshows, hrate, htax, htotal, hpaid, hformatted, hbalance⟩ :
      ("Subtotal".toList, .ofText (bill.money bill.invoice.subtotal)) ∈ bill.bindings ∧
      ("ShowTaxBreakdown".toList, .ofBool bill.showsTaxBreakdown) ∈ bill.bindings ∧
      ("TaxRate".toList, .ofText (Figure.trimmed bill.invoice.taxRate)) ∈ bill.bindings ∧
      ("TaxAmount".toList, .ofText (bill.money bill.invoice.taxAmount)) ∈ bill.bindings ∧
      ("Total".toList, .ofText (bill.money bill.invoice.total)) ∈ bill.bindings ∧
      ("AmountPaid".toList, .scalar (.decimal bill.invoice.amountPaid)) ∈ bill.bindings ∧
      ("AmountPaidFormatted".toList, .ofText (bill.money bill.invoice.amountPaid)) ∈
        bill.bindings ∧
      ("Balance".toList, .ofText (bill.money bill.invoice.balance)) ∈ bill.bindings := by
    simp only [bindings, List.mem_cons, true_or, or_true, and_self]
  have htaxLine : bill.shownPieces
      [lit "Tax (", val "TaxRate", lit "%): ", val "TaxAmount", lit "\n"] = bill.taxLine := by
    rw [shownPieces_lit, shownPieces_val hrate, Binding.toText_ofText, shownPieces_lit,
      shownPieces_val htax, Binding.toText_ofText, shownPieces_lit, shownPieces_nil]
    simp [taxLine, line]
  have hpaidLine : bill.shownPieces
      [lit "Amount Paid: ", val "AmountPaidFormatted", lit "\n"] =
        labelled "Amount Paid: " (bill.money bill.invoice.amountPaid) := by
    rw [shownPieces_lit, shownPieces_val hformatted, Binding.toText_ofText, shownPieces_lit,
      shownPieces_nil]
    simp [labelled, line]
  rw [totalOutline, shown_append, shown_fieldLine hsubtotal, shown_whenTrue hshows, htaxLine,
    shown_append, shown_fieldLine htotal, shown_whenTrue hpaid, hpaidLine,
    shown_fieldLine hbalance]
  rfl

theorem shown_remarkOutline : bill.shown remarkOutline = bill.remarkLines := by
  obtain ⟨hshowsNotes, hnotes, hshowsPayment, hpayment⟩ :
      ("ShowNotes".toList, .ofBool bill.showsNotes) ∈ bill.bindings ∧
      ("Notes".toList, .ofText? bill.invoice.notes) ∈ bill.bindings ∧
      ("ShowPaymentInstructions".toList, .ofBool bill.showsPaymentInstructions) ∈
        bill.bindings ∧
      ("PaymentInstructions".toList, .ofText bill.appearance.paymentInstructions) ∈
        bill.bindings := by
    simp only [bindings, List.mem_cons, true_or, or_true, and_self]
  have hnoteLines : bill.shownPieces [lit "\nNotes:\n", val "Notes", lit "\n"] =
      line [] ++ (line "Notes:".toList ++ line (bill.invoice.notes.getD [])) := by
    rw [shownPieces_lit, shownPieces_val hnotes, Binding.toText_ofText?, shownPieces_lit,
      shownPieces_nil]
    simp [line]
  have hpaymentLines : bill.shownPieces
      [lit "\nPayment Instructions:\n", val "PaymentInstructions", lit "\n"] =
        line [] ++ (line "Payment Instructions:".toList ++
          line bill.appearance.paymentInstructions) := by
    rw [shownPieces_lit, shownPieces_val hpayment, Binding.toText_ofText, shownPieces_lit,
      shownPieces_nil]
    simp [line]
  rw [remarkOutline, shown_whenTrue hshowsNotes, hnoteLines, shown_whenTrue hshowsPayment,
    hpaymentLines, shown_nil, List.append_nil]
  rfl

theorem shown_closingOutline : bill.shown closingOutline = bill.closingLines := by
  have hfooter : ("FooterText".toList, .ofText bill.appearance.footerText) ∈ bill.bindings := by
    simp only [bindings, List.mem_cons, true_or, or_true]
  rw [closingOutline, shown_words, shown_words, shown_value hfooter, shown_words, shown_nil,
    Binding.toText_ofText]
  simp [closingLines, line]

/-- The template means the plain text. -/
theorem shown_plainOutline : bill.shown plainOutline = bill.plainText := by
  simp only [plainOutline, shown_append, shown_words, shown_headingOutline,
    shown_invoiceOutline, shown_customerOutline, shown_itemOutline, shown_totalOutline,
    shown_remarkOutline, shown_closingOutline]
  rfl

end Parts

/-! ## The two ways agree -/

section Agree

variable {bill : Bill}

theorem isWritten_plainOutline : plainOutline.IsWritten := by
  decide +kernel

/-- A part that repeats over the rows asks for the names of a row only. -/
def AsksRowFields : Node → Prop
  | .piece _ => True
  | .positive name body =>
      name = "LineItems".toList → ∀ other ∈ body.filterMap Piece.name?, other ∈ rowFields
  | .negative _ _ => True

instance : (node : Node) → Decidable (AsksRowFields node)
  | .piece _ => inferInstanceAs (Decidable True)
  | .positive _ _ => inferInstanceAs (Decidable (_ → _))
  | .negative _ _ => inferInstanceAs (Decidable True)

/-- Only the rows repeat, and what they show is settled. -/
theorem repeatsSettled_of_asksRowFields {outline : Outline}
    (hrows : ∀ node ∈ outline, AsksRowFields node) (hsymbol : '{' ∉ bill.symbol)
    (hitems : ∀ item ∈ bill.invoice.lineItems, '{' ∉ item.description) :
    outline.RepeatsSettled (.ofContext bill.context) := by
  intro name body items hpositive hlookup element helement other hother
  obtain ⟨rfl, rfl⟩ := bill.eq_of_lookup?_context_sequence hlookup
  obtain ⟨item, hitem, rfl⟩ := List.mem_map.mp helement
  have hfield : other ∈ rowFields := hrows _ hpositive rfl other hother
  refine Text.isSettled_of_notMem ?_
  exact item.openBrace_notMem_toText bill.symbol hfield hsymbol (hitems item hitem)

theorem asksRowFields_plainOutline : ∀ node ∈ plainOutline, AsksRowFields node := by
  decide +kernel

/-- **The plain text of a bill is the markup of a template.**  Braces may stand in every text
but the currency symbol and the descriptions of the rows. -/
theorem markup_withBody_plainOutline (hsymbol : '{' ∉ bill.symbol)
    (hitems : ∀ item ∈ bill.invoice.lineItems, '{' ∉ item.description) :
    (bill.withBody plainOutline.source).markup = bill.plainText := by
  have hcontext : (bill.withBody plainOutline.source).context = bill.context := rfl
  calc (bill.withBody plainOutline.source).markup
      = Template.renderText plainOutline.source bill.context := by
        rw [markup, hcontext]
        rfl
    _ = bill.shown plainOutline :=
        renderText_eq_evaluate_of_repeatsSettled isWritten_plainOutline
          (repeatsSettled_of_asksRowFields asksRowFields_plainOutline hsymbol hitems)
    _ = bill.plainText := bill.shown_plainOutline

end Agree

/-- A sample bill, paid in part, whose title and notes look like markers. -/
def bracedBill : Bill :=
  let today : Date := ⟨2025, 1, 31, by decide⟩
  let total : Text := (Marker.mk .plain "Total".toList).text
  { invoice := { Sample.invoice today with amountPaid := .ofNat 5, notes := some total }
    appearance := { Appearance.standard with headerText := '{' :: total }
    company := { Company.unnamed with name := ['{', '{', '#'], email := ['{', '}'] }
    customer := some Sample.customer
    symbol := ['€']
    today := today }

/-- Its title and notes show as they are. -/
theorem markup_bracedBill :
    (bracedBill.withBody plainOutline.source).markup = bracedBill.plainText :=
  markup_withBody_plainOutline (by decide) (by decide)

end Bill

end Invoicing
