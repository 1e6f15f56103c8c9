import Invoicing.Proofs.Invoice.Layouts
import Invoicing.Proofs.Template.Outlines

/-!
# The rows of a bill in the bundled layouts

A bundled layout repeats one block over the rows of the invoice.  Main statement:
`Bill.markup_rows`.  Where none of the texts of a bill holds an opening brace, the markup is made
of what stands before that block, the written row once for each row of the invoice, in order, with
its markers replaced by the description and the figures, and what stands behind the block.  No two
braces in a row are left.

## Strategy

* **Braces.**  A bill binds figures, dates, flags and its own texts (`Bill.texts`), and of these
  only its texts could hold braces (`Bill.openBrace_notMem_of_holds`).  So nothing that is put into
  the layout makes a marker, and the layout itself is tidy.
* **The block.**  Each layout opens the block once and asks for the names of a row nowhere else.
  This is checked part by part (`Layout.countP_opensRows_all`, `Layout.markers_all`) and then said
  of the template text, cut at the block (`Layout.RowsAt`).
* **The rows.**  In the scope of a row its names stand for what the row prints
  (`LineItem.toText_push_context_eq_printed`), so the block shows the written row with its markers
  replaced.
-/

namespace Invoicing

/-! ## Texts without braces -/

theorem Text.base64Char_ne_openBrace (bits : ℕ) : base64Char bits ≠ '{' := by
  unfold base64Char
  split
  · next hupper =>
      have hall : ∀ bits < 26, Char.ofNat ('A'.toNat + bits) ≠ '{' := by decide
      exact hall bits hupper
  · split
    · have hall : ∀ bits < 26, Char.ofNat ('a'.toNat + bits) ≠ '{' := by decide
      exact hall (bits - 26) (by omega)
    · split
      · have hall : ∀ bits < 10, Char.ofNat ('0'.toNat + bits) ≠ '{' := by decide
        exact hall (bits - 52) (by omega)
      · split <;> decide

theorem Text.openBrace_notMem_base64 (octets : List UInt8) : '{' ∉ base64 octets := by
  have hchar : ∀ bits, '{' ≠ base64Char bits := fun bits => (base64Char_ne_openBrace bits).symm
  fun_induction base64 octets <;> simp_all

theorem Date.openBrace_notMem_shortText (date : Date) : '{' ∉ date.shortText := by
  have hpadded : ∀ width number, '{' ∉ Text.zeroPadded width (Text.ofNat number) :=
    fun width number => Text.openBrace_notMem_zeroPadded width (Text.openBrace_notMem_ofNat number)
  have hmonth : '{' ∉ monthName date.month := by
    unfold monthName
    split <;> decide
  have hyear : '{' ∉ yearText date.year := by
    simp only [yearText]
    split
    · simp [hpadded]
    · split <;> simp [hpadded]
  simp [shortText, twoDigits, hmonth, hpadded, hyear]

theorem Status.openBrace_notMem_name (status : Status) : '{' ∉ status.name := by
  cases status <;> decide

/-! ## The texts that a bill is made from -/

/-- The texts of an invoice. -/
def Invoice.texts (invoice : Invoice) : List Text :=
  invoice.id :: invoice.customerId ::
    (invoice.lineItems.map LineItem.description ++ invoice.notes.toList)

/-- The texts of an appearance. -/
def Appearance.texts (appearance : Appearance) : List Text :=
  [appearance.name, appearance.fontFamily, appearance.primaryColor, appearance.secondaryColor,
    appearance.accentColor, appearance.headerText, appearance.footerText,
    appearance.paymentInstructions] ++ appearance.customBody.toList

/-- The texts of a company. -/
def Company.texts (company : Company) : List Text :=
  [company.name, company.address, company.email, company.phone]

/-- The texts of a customer. -/
def Customer.texts (customer : Customer) : List Text :=
  customer.id :: customer.name :: (customer.email.toList ++ customer.address.toList)

namespace Bill

/-- The texts that a bill is made from. -/
def texts (bill : Bill) : List Text :=
  bill.symbol :: (bill.invoice.texts ++ (bill.appearance.texts ++ (bill.company.texts ++
    bill.customer.toList.flatMap Customer.texts)))

section Braces

variable {bill : Bill}

theorem openBrace_notMem_getD {content : Option Text} (h : ∀ text ∈ content.toList, '{' ∉ text) :
    '{' ∉ content.getD [] := by
  cases content with
  | none => exact List.not_mem_nil
  | some text => exact h text (List.mem_singleton_self text)

theorem openBrace_notMem_customer
    (h : ∀ text ∈ bill.customer.toList.flatMap Customer.texts, '{' ∉ text) :
    '{' ∉ bill.customerName ∧ '{' ∉ (bill.customer >>= Customer.email).getD [] ∧
      '{' ∉ (bill.customer >>= Customer.address).getD [] := by
  unfold customerName
  cases hcustomer : bill.customer with
  | none => exact ⟨by decide, List.not_mem_nil, List.not_mem_nil⟩
  | some customer =>
      rw [hcustomer] at h
      simp only [Option.toList_some, List.flatMap_cons, List.flatMap_nil, List.append_nil,
        Customer.texts, List.forall_mem_cons, List.forall_mem_append] at h
      obtain ⟨-, hname, hemail, haddress⟩ := h
      exact ⟨hname, openBrace_notMem_getD hemail, openBrace_notMem_getD haddress⟩

theorem openBrace_notMem_symbol (h : ∀ text ∈ bill.texts, '{' ∉ text) : '{' ∉ bill.symbol :=
  h _ (List.mem_cons_self ..)

theorem openBrace_notMem_description (h : ∀ text ∈ bill.texts, '{' ∉ text) :
    ∀ item ∈ bill.invoice.lineItems, '{' ∉ item.description := by
  intro item hitem
  have hmem : item.description ∈ bill.invoice.lineItems.map LineItem.description :=
    List.mem_map_of_mem hitem
  apply h
  simp [texts, Invoice.texts, hmem]

/-- What the bill binds shows no braces when none of its texts holds any. -/
theorem openBrace_notMem_toText (h : ∀ text ∈ bill.texts, '{' ∉ text) :
    ∀ entry ∈ bill.bindings, '{' ∉ entry.2.toText := by
  simp only [texts, Invoice.texts, Appearance.texts, Company.texts, List.forall_mem_cons,
    List.forall_mem_append] at h
  obtain ⟨hsymbol, ⟨hid, -, -, hnotes⟩, ⟨⟨-, hfont, hprimary, hsecondary, haccent, hheader, hfooter,
    hpayment, -⟩, -⟩, ⟨hcompany, haddress, hemail, hphone, -⟩, hcustomer⟩ := h
  obtain ⟨hcustomerName, hcustomerEmail, hcustomerAddress⟩ := openBrace_notMem_customer hcustomer
  have hmoney : ∀ amount, '{' ∉ bill.money amount := Figure.openBrace_notMem_currency hsymbol
  have hflag : ∀ flag, '{' ∉ (Binding.ofBool flag).toText := by decide
  have hpaid : '{' ∉ (Binding.scalar (.decimal bill.invoice.amountPaid)).toText :=
    Binding.openBrace_notMem_toText fun text htext => by simp at htext
  have hrows : ∀ items, '{' ∉ (Binding.sequence items).toText := fun items =>
    Binding.openBrace_notMem_toText fun text htext => Binding.noConfusion htext
  simp only [bindings, List.forall_mem_cons, Binding.toText_ofText, Binding.toText_ofText?]
  exact ⟨hfont, hprimary, hsecondary, haccent, hheader, hfooter, hcompany, haddress, hemail, hphone,
    Text.openBrace_notMem_base64 _, hflag _, hflag _, hid, Date.openBrace_notMem_shortText _,
    Date.openBrace_notMem_shortText _, Status.openBrace_notMem_name _, hflag _, hflag _,
    hcustomerName, hcustomerEmail, hcustomerAddress, hsymbol, hmoney _,
    Figure.openBrace_notMem_trimmed _, hmoney _, hflag _, hmoney _, hpaid, hmoney _, hmoney _,
    openBrace_notMem_getD hnotes, hflag _, hpayment, hflag _, hrows _,
    fun _ hnone => absurd hnone List.not_mem_nil⟩

/-- No text that a template finds in the bill holds a brace. -/
theorem openBrace_notMem_of_holds (h : ∀ text ∈ bill.texts, '{' ∉ text) {text : Text}
    (hholds : bill.context.Holds text) : '{' ∉ text := by
  cases hholds with
  | here hbound =>
      rw [← Scope.lookup?_ofContext, lookup?_context] at hbound
      have hmem := Text.mem_of_lookup_eq_some hbound
      exact openBrace_notMem_toText h _ hmem
  | inside hbound helement hholds =>
      rw [← Scope.lookup?_ofContext] at hbound
      obtain ⟨-, rfl⟩ := bill.eq_of_lookup?_context_sequence hbound
      obtain ⟨item, hitem, rfl⟩ := List.mem_map.mp helement
      exact item.openBrace_notMem_of_holds bill.symbol (openBrace_notMem_symbol h)
        (openBrace_notMem_description h item hitem) hholds

end Braces

end Bill

/-! ## One row -/

namespace LineItem

/-- What a row prints for a name: the description as it is, and the figures in their format. -/
def printed (symbol : Text) (item : LineItem) (name : Text) : Text :=
  if name = "Description".toList then item.description
  else if name = "Quantity".toList then Figure.trimmed item.quantity
  else if name = "UnitPrice".toList then Figure.currency symbol item.unitPrice
  else if name = "Amount".toList then Figure.currency symbol item.amount
  else []

variable (symbol : Text) (item : LineItem)

theorem toText_push_context_eq_printed {scope : Scope} {name : Text} (hname : name ∈ rowFields) :
    (scope.push (item.context symbol)).toText name = item.printed symbol name := by
  have hbound : ∀ entry ∈ item.bindings symbol, entry.2.toText = item.printed symbol entry.1 := by
    simp only [bindings, List.forall_mem_cons, Binding.toText_ofText]
    refine ⟨rfl, ?_, ?_, ?_, fun _ hnone => absurd hnone List.not_mem_nil⟩
    all_goals
      simp [printed]
  rw [← map_fst_bindings symbol item] at hname
  obtain ⟨entry, hmem, rfl⟩ := List.mem_map.mp hname
  rw [toText_push_context symbol item hmem, hbound entry hmem]

/-- A row prints the written row with its markers replaced. -/
theorem evaluateAll_push_context {scope : Scope} {body : List Piece}
    (hwritten : ∀ part ∈ body, part.IsWritten)
    (hfields : ∀ name ∈ body.filterMap Piece.name?, name ∈ rowFields) :
    Piece.evaluateAll (scope.push (item.context symbol)) body =
      replaceValues (item.printed symbol) (Piece.sourceAll body) :=
  Piece.evaluateAll_eq_replaceValues hwritten fun name hname =>
    item.toText_push_context_eq_printed symbol (hfields name hname)

end LineItem

/-! ## The rows of a layout -/

/-- The part is a `#` block over the rows. -/
def Node.opensRows (node : Node) : Bool := ⟨.hash, "LineItems".toList⟩ ∈ node.markers

theorem Node.exists_eq_positive_of_opensRows {node : Node} (h : node.opensRows) :
    ∃ body, node = .positive "LineItems".toList body := by
  cases node with
  | piece part => simp [opensRows, markers] at h
  | positive name body =>
      have hname : "LineItems".toList = name := by simpa [opensRows, markers] using h
      exact ⟨body, by rw [hname]⟩
  | negative name body => simp [opensRows, markers] at h

namespace Layout

/-- Each layout opens its rows once. -/
theorem countP_opensRows_all : ∀ layout ∈ all, layout.outline.countP Node.opensRows = 1 := by
  decide +kernel

/-- The rows ask for a description, and no layout asks for the names of a row elsewhere. -/
theorem markers_all : ∀ layout ∈ all, ∀ node ∈ layout.outline,
    if node.opensRows then ⟨.plain, "Description".toList⟩ ∈ node.markers
    else ∀ marker ∈ node.markers, marker.name ∉ rowFields := by
  decide +kernel

/-- The template text of a layout, cut at its rows: the block over the rows stands there once, the
names of a row are asked for in its body and nowhere else, and the description is among them. -/
structure RowsAt (layout : Layout) (lead row rest : Text) : Prop where
  body_eq : layout.body = lead ++ (Block.text .hash ⟨"LineItems".toList, row⟩ ++ rest)
  around : ∀ marker ∈ markersOf lead ++ markersOf rest,
    marker ≠ ⟨.hash, "LineItems".toList⟩ ∧ marker.name ∉ rowFields
  inside : ∀ marker ∈ markersOf row, marker.sigil = .plain ∧ marker.name ∈ rowFields
  description : ⟨.plain, "Description".toList⟩ ∈ markersOf row

section Cut

variable {layout : Layout} {before after : Outline} {body : List Piece}

theorem exists_rows (layout : Layout) : ∃ before body after,
    layout.outline = before ++ .positive "LineItems".toList body :: after ∧
      ∀ node ∈ before ++ after, ¬ node.opensRows := by
  have hcount := countP_opensRows_all layout layout.mem_all
  obtain ⟨node, hmem, hrows⟩ := List.countP_pos_iff.mp (hcount.symm ▸ Nat.one_pos)
  obtain ⟨before, after, houtline⟩ := List.append_of_mem hmem
  obtain ⟨body, rfl⟩ := Node.exists_eq_positive_of_opensRows hrows
  refine ⟨before, body, after, houtline, ?_⟩
  rw [houtline, List.countP_append, List.countP_cons_of_pos hrows] at hcount
  have hnone : (before ++ after).countP Node.opensRows = 0 := by
    rw [List.countP_append]
    omega
  exact List.countP_eq_zero.mp hnone

theorem rowsAt (houtline : layout.outline = before ++ .positive "LineItems".toList body :: after)
    (hothers : ∀ node ∈ before ++ after, ¬ node.opensRows) :
    layout.RowsAt (Outline.source before) (Piece.sourceAll body) (Outline.source after) := by
  have hmem : ∀ node ∈ before ++ after, node ∈ layout.outline := by
    intro node hnode
    rw [houtline]
    simp only [List.mem_append, List.mem_cons] at hnode ⊢
    tauto
  have hrows : .positive "LineItems".toList body ∈ layout.outline := by simp [houtline]
  have hwritten := layout.isWritten_outline
  have hbody : ∀ part ∈ body, part.IsWritten := (hwritten _ hrows).2
  have hbefore : Outline.IsWritten before := fun node hnode =>
    hwritten node (hmem node (List.mem_append_left _ hnode))
  have hafter : Outline.IsWritten after := fun node hnode =>
    hwritten node (hmem node (List.mem_append_right _ hnode))
  have hasks := layout.asksRowFields_all layout.mem_all _ hrows rfl
  have hdescription := markers_all layout layout.mem_all _ hrows
  refine ⟨?_, ?_, ?_, ?_⟩
  · rw [Layout.body, houtline]
    simp [Outline.source, Node.source]
  · rw [Outline.markersOf_source hbefore, Outline.markersOf_source hafter, ← List.flatMap_append]
    intro marker hmarker
    obtain ⟨node, hnode, hmarker⟩ := List.mem_flatMap.mp hmarker
    have hopens := hothers node hnode
    have hnames := markers_all layout layout.mem_all node (hmem node hnode)
    rw [if_neg hopens] at hnames
    refine ⟨?_, hnames marker hmarker⟩
    rintro rfl
    exact hopens (decide_eq_true hmarker)
  · rw [Piece.markersOf_sourceAll hbody]
    intro marker hmarker
    obtain ⟨name, hname, rfl⟩ := List.mem_map.mp hmarker
    exact ⟨rfl, hasks name hname⟩
  · rw [Piece.markersOf_sourceAll hbody]
    simpa [Node.opensRows, Node.markers] using hdescription

end Cut

end Layout

/-! ## The rows of a bill -/

namespace Bill

section Markup

variable {bill : Bill}

theorem not_opening_isInfix_markup (hlayout : bill.appearance.customBody = none)
    (hbraces : ∀ text ∈ bill.texts, '{' ∉ text) : ¬ Marker.opening <:+: bill.markup := by
  have htidy : (bill.shown bill.appearance.layout.outline).IsTidy :=
    Outline.isTidy_evaluate bill.appearance.layout.isWritten_outline fun _ hholds =>
      openBrace_notMem_of_holds hbraces hholds
  rw [markup_eq_shown hlayout (openBrace_notMem_symbol hbraces)
    (openBrace_notMem_description hbraces)]
  exact htidy.1

/-- A stretch of a layout is rendered to what its parts mean. -/
theorem renderText_source_eq_shown {stretch : Outline}
    (hstretch : ∀ node ∈ stretch, node ∈ bill.appearance.layout.outline)
    (hbraces : ∀ text ∈ bill.texts, '{' ∉ text) :
    Template.renderText stretch.source bill.context = bill.shown stretch := by
  have hwritten : stretch.IsWritten := fun node hnode =>
    bill.appearance.layout.isWritten_outline node (hstretch node hnode)
  have hrows : ∀ node ∈ stretch, AsksRowFields node := fun node hnode =>
    Layout.asksRowFields_all _ bill.appearance.layout.mem_all node (hstretch node hnode)
  exact Outline.renderText_eq_evaluate_of_repeatsSettled hwritten
    (repeatsSettled_of_asksRowFields hrows (openBrace_notMem_symbol hbraces)
      (openBrace_notMem_description hbraces))

/-- The block over the rows shows one row after another. -/
theorem shown_rows {body : List Piece} (hwritten : ∀ part ∈ body, part.IsWritten)
    (hfields : ∀ name ∈ body.filterMap Piece.name?, name ∈ rowFields) (after : Outline) :
    bill.shown (.positive "LineItems".toList body :: after) =
      (bill.invoice.lineItems.flatMap fun item =>
        replaceValues (item.printed bill.symbol) (Piece.sourceAll body)) ++ bill.shown after := by
  have hitems : ("LineItems".toList,
      .sequence (bill.invoice.lineItems.map (·.context bill.symbol))) ∈ bill.bindings := by
    simp only [bindings, List.mem_cons, true_or, or_true]
  have hrow : ∀ item : LineItem,
      Piece.evaluateAll ((Scope.ofContext bill.context).push (item.context bill.symbol)) body =
        replaceValues (item.printed bill.symbol) (Piece.sourceAll body) := fun item =>
    item.evaluateAll_push_context bill.symbol hwritten hfields
  have hshown := shown_repeated hitems body after
  rw [List.flatMap_map] at hshown
  simp only [hrow] at hshown
  exact hshown

end Markup

/-- **Every bundled layout prints each row once, in order, and leaves no marker behind.**  Where
none of the texts of a bill holds an opening brace, the markup is what stands before the rows, the
written row once for each row of the invoice with the markers replaced, and what stands behind. -/
theorem markup_rows (layout : Layout) : ∃ lead row rest, layout.RowsAt lead row rest ∧
    ∀ bill : Bill, bill.appearance.layout = layout → bill.appearance.customBody = none →
      (∀ text ∈ bill.texts, '{' ∉ text) →
      ¬ Marker.opening <:+: bill.markup ∧
      bill.markup = Template.renderText lead bill.context ++
        (bill.invoice.lineItems.flatMap
            (fun item => replaceValues (item.printed bill.symbol) row) ++
          Template.renderText rest bill.context) := by
  obtain ⟨before, body, after, houtline, hothers⟩ := layout.exists_rows
  refine ⟨_, _, _, Layout.rowsAt houtline hothers, ?_⟩
  rintro bill rfl hlayout hbraces
  refine ⟨not_opening_isInfix_markup hlayout hbraces, ?_⟩
  have hrows : .positive "LineItems".toList body ∈ bill.appearance.layout.outline := by
    simp [houtline]
  have hbefore : ∀ node ∈ before, node ∈ bill.appearance.layout.outline := by
    intro node hnode
    simp [houtline, hnode]
  have hafter : ∀ node ∈ after, node ∈ bill.appearance.layout.outline := by
    intro node hnode
    simp [houtline, hnode]
  have hbody : ∀ part ∈ body, part.IsWritten :=
    (bill.appearance.layout.isWritten_outline _ hrows).2
  have hfields := Layout.asksRowFields_all _ bill.appearance.layout.mem_all _ hrows rfl
  calc bill.markup
      = bill.shown bill.appearance.layout.outline :=
        markup_eq_shown hlayout (openBrace_notMem_symbol hbraces)
          (openBrace_notMem_description hbraces)
    _ = bill.shown before ++ bill.shown (.positive "LineItems".toList body :: after) := by
        rw [houtline, shown_append]
    _ = bill.shown before ++ (bill.invoice.lineItems.flatMap
            (fun item => replaceValues (item.printed bill.symbol) (Piece.sourceAll body)) ++
          bill.shown after) := by
        rw [shown_rows hbody hfields]
    _ = Template.renderText (Outline.source before) bill.context ++
          (bill.invoice.lineItems.flatMap
            (fun item => replaceValues (item.printed bill.symbol) (Piece.sourceAll body)) ++
          Template.renderText (Outline.source after) bill.context) := by
        rw [renderText_source_eq_shown hbefore hbraces, renderText_source_eq_shown hafter hbraces]

/-- The sample bill in the minimal layout. -/
def minimalBill : Bill := Sample.bill (.ofLayout .minimal) .unnamed ['€'] bracedBill.today

theorem markup_minimalBill : ∃ lead row rest, Layout.minimal.RowsAt lead row rest ∧
    ¬ Marker.opening <:+: minimalBill.markup ∧
    minimalBill.markup = Template.renderText lead minimalBill.context ++
      (minimalBill.invoice.lineItems.flatMap
          (fun item => replaceValues (item.printed ['€']) row) ++
        Template.renderText rest minimalBill.context) := by
  obtain ⟨lead, row, rest, hrows, hmarkup⟩ := markup_rows .minimal
  have hbraces : ∀ text ∈ minimalBill.texts, '{' ∉ text := by decide
  exact ⟨lead, row, rest, hrows, hmarkup minimalBill rfl rfl hbraces⟩

end Bill

end Invoicing
