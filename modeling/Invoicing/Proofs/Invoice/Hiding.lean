import Invoicing.Proofs.Invoice.Layouts

/-!
# What is hidden does not show

An appearance can hide the notes, the payment instructions, the address of the company, its logo
and the due date.  The context still binds what is hidden; only the templates leave it alone.  So
two bills that differ in something hidden are rendered in different contexts, and they still
show the same (`Hidable.output_putOn`), as markup in every bundled layout and as plain text.

## Strategy

* **The templates.**  In every layout a hidable name stands only in blocks over the flag
  that guards it (`Outline.Guards`), which can be checked part by part.  The plain text is the
  meaning of one more outline, which guards the names as well.
* **The contexts.**  Two bills that differ in something hidden bind all other names alike, and the
  flag to false.
* **The meaning.**  Scopes that agree on all other names give a guarded outline the same meaning,
  part by part (`Outline.evaluate_congr`).
-/

namespace Invoicing

/-! ## Guarded names -/

/-- A part shows or asks for a name only under a flag. -/
def Node.Guards (flag hidden : Text) : Node → Prop
  | .piece part => part.name? ≠ some hidden
  | .positive name body =>
      name = flag ∨ name ≠ hidden ∧ hidden ∉ body.filterMap Piece.name?
  | .negative name body => name ≠ hidden ∧ hidden ∉ body.filterMap Piece.name?

instance (flag hidden : Text) : (node : Node) → Decidable (node.Guards flag hidden)
  | .piece _ => inferInstanceAs (Decidable (_ ≠ _))
  | .positive _ _ => inferInstanceAs (Decidable (_ ∨ _))
  | .negative _ _ => inferInstanceAs (Decidable (_ ∧ _))

/-- Every part of an outline shows or asks for a name only under a flag. -/
def Outline.Guards (flag hidden : Text) (outline : Outline) : Prop :=
  ∀ node ∈ outline, node.Guards flag hidden

instance (flag hidden : Text) (outline : Outline) : Decidable (outline.Guards flag hidden) :=
  inferInstanceAs (Decidable (∀ _ ∈ _, _))

/-- Two scopes find the same under every name but one. -/
def Scope.AgreeOff (hidden : Text) (first second : Scope) : Prop :=
  ∀ name, name ≠ hidden → first.lookup? name = second.lookup? name

section Congr

variable {flag hidden : Text} {first second : Scope}

theorem Scope.AgreeOff.push (h : AgreeOff hidden first second) (item : Context) :
    AgreeOff hidden (first.push item) (second.push item) := by
  intro name hname
  rw [lookup?_push, lookup?_push, h name hname]

theorem Scope.AgreeOff.toText_eq (h : AgreeOff hidden first second) {name : Text}
    (hname : name ≠ hidden) : first.toText name = second.toText name := by
  rw [toText, toText, h name hname]

theorem Piece.evaluate_congr (h : Scope.AgreeOff hidden first second) {part : Piece}
    (hpart : part.name? ≠ some hidden) : part.evaluate first = part.evaluate second := by
  cases part with
  | text content => rfl
  | value name =>
      have hname : name ≠ hidden := by
        rintro rfl
        exact hpart rfl
      exact h.toText_eq hname

theorem Piece.evaluateAll_congr (h : Scope.AgreeOff hidden first second) {body : List Piece}
    (hbody : hidden ∉ body.filterMap Piece.name?) :
    Piece.evaluateAll first body = Piece.evaluateAll second body := by
  refine List.flatMap_congr fun part hpart => Piece.evaluate_congr h ?_
  intro hname
  exact hbody (List.mem_filterMap.mpr ⟨part, hpart, hname⟩)

/-- A block over the flag shows nothing, and any other part does not look at the hidden name. -/
theorem Node.evaluate_congr (h : Scope.AgreeOff hidden first second) {flagged : Scalar}
    (hfirst : first.lookup? flag = some (.scalar flagged))
    (hsecond : second.lookup? flag = some (.scalar flagged)) (hfalse : ¬ flagged.isTruthy)
    {node : Node} (hnode : node.Guards flag hidden) :
    node.evaluate first = node.evaluate second := by
  cases node with
  | piece part => exact Piece.evaluate_congr h hnode
  | positive name body =>
      rcases hnode with rfl | ⟨hname, hbody⟩
      · simp only [evaluate, hfirst, hsecond, hfalse, if_false, Bool.false_eq_true]
      · have hitem : ∀ item : Context, Piece.evaluateAll (first.push item) body =
            Piece.evaluateAll (second.push item) body := fun item =>
          Piece.evaluateAll_congr (h.push item) hbody
        simp only [evaluate, h name hname, Piece.evaluateAll_congr h hbody, hitem]
  | negative name body =>
      obtain ⟨hname, hbody⟩ := hnode
      rw [evaluate, evaluate, Scope.isTruthy, Scope.isTruthy, h name hname,
        Piece.evaluateAll_congr h hbody]

theorem Outline.evaluate_congr (h : Scope.AgreeOff hidden first second) {flagged : Scalar}
    (hfirst : first.lookup? flag = some (.scalar flagged))
    (hsecond : second.lookup? flag = some (.scalar flagged)) (hfalse : ¬ flagged.isTruthy)
    {outline : Outline} (houtline : outline.Guards flag hidden) :
    outline.evaluate first = outline.evaluate second :=
  List.flatMap_congr fun node hnode =>
    Node.evaluate_congr h hfirst hsecond hfalse (houtline node hnode)

end Congr

/-! ## What can be hidden -/

/-- What an appearance can hide. -/
inductive Hidable where
  /-- The notes of the invoice. -/
  | notes
  /-- How to pay. -/
  | paymentInstructions
  /-- The address of the company. -/
  | companyAddress
  /-- The image file of the logo. -/
  | logo
  /-- The due date. -/
  | dueDate
  deriving DecidableEq, Repr

namespace Hidable

/-- What a bill holds there. -/
abbrev Content : Hidable → Type
  | notes => Option Text
  | paymentInstructions => Text
  | companyAddress => Text
  | logo => Option (List UInt8)
  | dueDate => Date

/-- The bill with a content in place of its own. -/
def putOn (bill : Bill) : (item : Hidable) → item.Content → Bill
  | notes, content => { bill with invoice := { bill.invoice with notes := content } }
  | paymentInstructions, content =>
      { bill with appearance := { bill.appearance with paymentInstructions := content } }
  | companyAddress, content => { bill with company := { bill.company with address := content } }
  | logo, content => { bill with company := { bill.company with logo := content } }
  | dueDate, content => { bill with invoice := { bill.invoice with dueDate := content } }

/-- The name that is bound to it. -/
def field : Hidable → Text
  | notes => "Notes".toList
  | paymentInstructions => "PaymentInstructions".toList
  | companyAddress => "CompanyAddress".toList
  | logo => "CompanyLogo".toList
  | dueDate => "DueDate".toList

/-- The name of its flag. -/
def flag : Hidable → Text
  | notes => "ShowNotes".toList
  | paymentInstructions => "ShowPaymentInstructions".toList
  | companyAddress => "ShowCompanyAddress".toList
  | logo => "ShowLogo".toList
  | dueDate => "ShowDueDate".toList

/-- Whether the appearance of a bill lets it show. -/
def mayShow (bill : Bill) : Hidable → Bool
  | notes => bill.appearance.showNotes
  | paymentInstructions => bill.appearance.showPaymentInstructions
  | companyAddress => bill.appearance.showCompanyAddress
  | logo => bill.appearance.showLogo
  | dueDate => bill.appearance.showDueDate

/-- Whether it shows. -/
def shows (bill : Bill) : Hidable → Bool
  | notes => bill.showsNotes
  | paymentInstructions => bill.showsPaymentInstructions
  | companyAddress => bill.showsCompanyAddress
  | logo => bill.showsLogo
  | dueDate => bill.appearance.showDueDate

theorem mayShow_of_shows {item : Hidable} {bill : Bill} (h : item.shows bill) :
    item.mayShow bill := by
  cases item with
  | dueDate => exact h
  | _ => exact (Bool.and_eq_true_iff.mp h).1

/-! ### The templates -/

/-- All that can be hidden. -/
def all : List Hidable := [notes, paymentInstructions, companyAddress, logo, dueDate]

theorem mem_all (item : Hidable) : item ∈ all := by
  cases item <;> decide

-- one evaluation for all of them, since most of its time goes into reading the names
theorem guards_all : ∀ outline ∈ Bill.plainOutline :: Layout.all.map Layout.outline,
    ∀ item ∈ all, outline.Guards item.flag item.field := by
  decide +kernel

theorem guards_plainOutline (item : Hidable) : Bill.plainOutline.Guards item.flag item.field :=
  guards_all _ (List.mem_cons_self ..) item item.mem_all

theorem guards_outline (item : Hidable) (layout : Layout) :
    layout.outline.Guards item.flag item.field := by
  have houtline : layout.outline ∈ Layout.all.map Layout.outline :=
    List.mem_map_of_mem layout.mem_all
  exact guards_all _ (List.mem_cons_of_mem _ houtline) item item.mem_all

/-! ### The contexts -/

/-- Two entries bind the same name, and bind it alike unless it is the hidden one. -/
def SameOff (hidden : Text) (first second : Text × Binding) : Prop :=
  first.1 = second.1 ∧ (first.1 ≠ hidden → first.2 = second.2)

section SameOff

theorem SameOff.refl (hidden : Text) (entry : Text × Binding) : SameOff hidden entry entry :=
  ⟨rfl, fun _ => rfl⟩

theorem SameOff.hidden (hidden : Text) (first second : Binding) :
    SameOff hidden (hidden, first) (hidden, second) :=
  ⟨rfl, fun hname => absurd rfl hname⟩

theorem SameOff.ofBool {first second : Bool} (h : first = second) (hidden name : Text) :
    SameOff hidden (name, .ofBool first) (name, .ofBool second) :=
  ⟨rfl, fun _ => congrArg Binding.ofBool h⟩

theorem lookup_eq_of_forall₂ {hidden name : Text} {first second : List (Text × Binding)}
    (h : List.Forall₂ (SameOff hidden) first second) (hname : name ≠ hidden) :
    first.lookup name = second.lookup name := by
  induction h with
  | nil => rfl
  | @cons left right _ _ hsame _ ih =>
      obtain ⟨hkey, hbinding⟩ := hsame
      rw [Text.lookup_cons_eq_ite, Text.lookup_cons_eq_ite, ih, ← hkey]
      by_cases hfound : name = left.1
      · rw [if_pos hfound, if_pos hfound, hbinding (hfound ▸ hname)]
      · rw [if_neg hfound, if_neg hfound]

end SameOff

section PutOn

variable {item : Hidable} {bill : Bill} {content : item.Content}

theorem shows_eq_false (hhidden : item.mayShow bill = false) : item.shows bill = false := by
  rw [← Bool.not_eq_true]
  intro hshows
  rw [mayShow_of_shows hshows] at hhidden
  exact absurd hhidden Bool.noConfusion

theorem mayShow_putOn (item : Hidable) (bill : Bill) (content : item.Content) :
    item.mayShow (item.putOn bill content) = item.mayShow bill := by
  cases item <;> rfl

/-- The bills bind alike all but the hidden name: its flag is false for both, and the other names
are bound to what the two bills share. -/
theorem forall₂_bindings (hhidden : item.mayShow bill = false)
    (hoverdue : (item.putOn bill content).isOverdue = bill.isOverdue) :
    List.Forall₂ (SameOff item.field) (item.putOn bill content).bindings bill.bindings := by
  have hshows : item.shows (item.putOn bill content) = item.shows bill := by
    rw [shows_eq_false hhidden, shows_eq_false ((mayShow_putOn item bill content).trans hhidden)]
  cases item
  all_goals
    -- one entry after another, from the first to the last
    repeat refine List.Forall₂.cons (by
      first
        | exact .refl ..
        | exact .ofBool hshows ..
        | exact .ofBool hoverdue ..
        | exact .hidden ..) ?_
    exact .nil

theorem agreeOff_context (hhidden : item.mayShow bill = false)
    (hoverdue : (item.putOn bill content).isOverdue = bill.isOverdue) :
    Scope.AgreeOff item.field (.ofContext (item.putOn bill content).context)
      (.ofContext bill.context) := by
  intro name hname
  rw [Bill.lookup?_context, Bill.lookup?_context]
  exact lookup_eq_of_forall₂ (forall₂_bindings hhidden hoverdue) hname

theorem mem_bindings_flag (item : Hidable) (bill : Bill) :
    (item.flag, .ofBool (item.shows bill)) ∈ bill.bindings := by
  obtain ⟨hnotes, hpayment, haddress, hlogo, hdue⟩ :
      ("ShowNotes".toList, .ofBool bill.showsNotes) ∈ bill.bindings ∧
      ("ShowPaymentInstructions".toList, .ofBool bill.showsPaymentInstructions) ∈
        bill.bindings ∧
      ("ShowCompanyAddress".toList, .ofBool bill.showsCompanyAddress) ∈ bill.bindings ∧
      ("ShowLogo".toList, .ofBool bill.showsLogo) ∈ bill.bindings ∧
      ("ShowDueDate".toList, .ofBool bill.appearance.showDueDate) ∈ bill.bindings := by
    simp only [Bill.bindings, List.mem_cons, true_or, or_true, and_self]
  cases item with
  | notes => exact hnotes
  | paymentInstructions => exact hpayment
  | companyAddress => exact haddress
  | logo => exact hlogo
  | dueDate => exact hdue

theorem lookup?_flag (hhidden : item.mayShow bill = false) :
    (Scope.ofContext bill.context).lookup? item.flag = some (.scalar (.bool false)) := by
  rw [bill.lookup?_context_of_mem (mem_bindings_flag item bill), shows_eq_false hhidden]
  rfl

/-- An outline that guards the hidden name shows the same of both bills. -/
theorem shown_putOn (hhidden : item.mayShow bill = false)
    (hoverdue : (item.putOn bill content).isOverdue = bill.isOverdue) {outline : Outline}
    (houtline : outline.Guards item.flag item.field) :
    (item.putOn bill content).shown outline = bill.shown outline := by
  have hagain : item.mayShow (item.putOn bill content) = false :=
    (mayShow_putOn item bill content).trans hhidden
  exact Outline.evaluate_congr (agreeOff_context hhidden hoverdue) (lookup?_flag hagain)
    (lookup?_flag hhidden) (by decide) houtline

end PutOn

end Hidable

/-! ## What is hidden does not show -/

/-- **What an appearance hides does not show.**  Two bills that differ in it only have the same
markup in the bundled layouts, and the same plain text. -/
theorem Hidable.output_putOn (item : Hidable) (content : item.Content) (bill : Bill)
    (hhidden : item.mayShow bill = false)
    (hoverdue : item = .dueDate → (item.putOn bill content).isOverdue = bill.isOverdue)
    (hlayout : bill.appearance.customBody = none) (hsymbol : '{' ∉ bill.symbol)
    (hitems : ∀ row ∈ bill.invoice.lineItems, '{' ∉ row.description) :
    (item.putOn bill content).markup = bill.markup ∧
      (item.putOn bill content).plainText = bill.plainText := by
  have hsame : (item.putOn bill content).isOverdue = bill.isOverdue := by
    cases item with
    | dueDate => exact hoverdue rfl
    | _ => rfl
  constructor
  · calc (item.putOn bill content).markup
        = (item.putOn bill content).shown bill.appearance.layout.outline := by
          cases item <;> exact Bill.markup_eq_shown hlayout hsymbol hitems
      _ = bill.shown bill.appearance.layout.outline :=
          shown_putOn hhidden hsame (item.guards_outline _)
      _ = bill.markup := (Bill.markup_eq_shown hlayout hsymbol hitems).symm
  · calc (item.putOn bill content).plainText
        = (item.putOn bill content).shown Bill.plainOutline := (Bill.shown_plainOutline _).symm
      _ = bill.shown Bill.plainOutline := shown_putOn hhidden hsame item.guards_plainOutline
      _ = bill.plainText := bill.shown_plainOutline

/-- A sample bill that hides when it is due. -/
def undatedBill : Bill :=
  Sample.bill { Appearance.standard with showDueDate := false } .unnamed ['$']
    ⟨2025, 3, 31, by decide⟩

/-- It could be due a year later. -/
theorem output_putOn_undatedBill :
    let later := Hidable.dueDate.putOn undatedBill ⟨2026, 3, 31, by decide⟩
    later.markup = undatedBill.markup ∧ later.plainText = undatedBill.plainText :=
  Hidable.dueDate.output_putOn _ undatedBill rfl (fun _ => by decide +kernel) rfl (by decide)
    (by decide)

end Invoicing
