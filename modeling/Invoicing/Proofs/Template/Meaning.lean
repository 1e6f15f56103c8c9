import Invoicing.Proofs.Binding.Texts
import Invoicing.Proofs.Template.Rendering
import Invoicing.Template.Outline

/-!
# What a template without nested blocks means

`Outline.evaluate` says in one step what an outline shows.  The renderer gets there in
four sweeps over its written form, and each sweep reads again what the one before it has
left.  They agree (`Outline.renderText_eq_evaluate`): an outline is a tree of one level, so its
rendering is what the passes make of that tree, and they do so for each part alone
(`Node.source_fillValues_expand`).

The one thing that can come between is a value that holds braces and is put into a
repeated block, since the last sweep reads it again.  So the theorem asks for no opening
brace in the texts of elements, nor in those texts of the root that a block names.
-/

namespace Invoicing

/-! ## Outlines that are written as they are meant -/

/-- A literal is tidy, and a name is a name. -/
def Piece.IsWritten : Piece → Prop
  | .text content => content.IsTidy
  | .value name => Marker.IsName name

instance : (part : Piece) → Decidable part.IsWritten
  | .text content => inferInstanceAs (Decidable content.IsTidy)
  | .value name => inferInstanceAs (Decidable (Marker.IsName name))

/-- The names are names, and the literals are tidy. -/
def Node.IsWritten : Node → Prop
  | .piece part => part.IsWritten
  | .positive name body => Marker.IsName name ∧ ∀ part ∈ body, part.IsWritten
  | .negative name body => Marker.IsName name ∧ ∀ part ∈ body, part.IsWritten

instance : (node : Node) → Decidable node.IsWritten
  | .piece part => inferInstanceAs (Decidable part.IsWritten)
  | .positive _ _ => inferInstanceAs (Decidable (_ ∧ _))
  | .negative _ _ => inferInstanceAs (Decidable (_ ∧ _))

/-- Every part of the outline is written as it is meant. -/
def Outline.IsWritten (outline : Outline) : Prop := ∀ node ∈ outline, node.IsWritten

instance (outline : Outline) : Decidable outline.IsWritten :=
  inferInstanceAs (Decidable (∀ _ ∈ _, _))

/-- The name whose value a piece shows. -/
def Piece.name? : Piece → Option Text
  | .text _ => none
  | .value name => some name

/-- The names whose values a block shows. -/
def Node.bodyNames : Node → List Text
  | .piece _ => []
  | .positive _ body => body.filterMap Piece.name?
  | .negative _ body => body.filterMap Piece.name?

/-- The names whose values the blocks show. -/
def Outline.bodyNames (outline : Outline) : List Text := outline.flatMap Node.bodyNames

/-! ## The tree of an outline -/

/-- Pieces one after another, as a tree. -/
def Piece.nesting : List Piece → Nesting
  | [] => .nil
  | .text content :: rest => .text content (nesting rest)
  | .value name :: rest => .value name (nesting rest)

section Pieces

variable (pieces : List Piece)

@[simp] theorem Piece.blocks_nesting : (nesting pieces).blocks = [] := by
  fun_induction nesting pieces <;> simp_all [Nesting.blocks]

theorem Piece.source_nesting : (nesting pieces).source = sourceAll pieces := by
  fun_induction nesting pieces with
  | case1 => rfl
  | case2 content rest ih => simp [Nesting.source, ih, sourceAll, source]
  | case3 name rest ih => simp [Nesting.source, ih, sourceAll, source]

theorem Piece.valueNames_nesting : (nesting pieces).valueNames = pieces.filterMap name? := by
  fun_induction nesting pieces with
  | case1 => rfl
  | case2 content rest ih =>
      rw [Nesting.valueNames, ih]
      rfl
  | case3 name rest ih =>
      rw [Nesting.valueNames, ih]
      rfl

theorem Piece.source_fillValues_nesting (scope : Scope) :
    ((nesting pieces).fillValues scope).source = evaluateAll scope pieces := by
  fun_induction nesting pieces with
  | case1 => rfl
  | case2 content rest ih =>
      simp [Nesting.fillValues, Nesting.source, ih, evaluateAll, evaluate]
  | case3 name rest ih =>
      simp [Nesting.fillValues, Nesting.source, ih, evaluateAll, evaluate]

variable {pieces}

theorem Piece.isSettled_nesting (h : ∀ part ∈ pieces, part.IsWritten) :
    (nesting pieces).IsSettled := by
  fun_induction nesting pieces with
  | case1 => trivial
  | case2 content rest ih =>
      obtain ⟨hcontent, hrest⟩ := List.forall_mem_cons.mp h
      exact ⟨Text.IsTidy.isSettled hcontent, ih hrest⟩
  | case3 name rest ih => exact ih (List.forall_mem_cons.mp h).2

theorem Piece.isProper_nesting (h : ∀ part ∈ pieces, part.IsWritten) :
    (nesting pieces).IsProper := by
  fun_induction nesting pieces with
  | case1 => trivial
  | case2 content rest ih => exact ih (List.forall_mem_cons.mp h).2
  | case3 name rest ih =>
      obtain ⟨hname, hrest⟩ := List.forall_mem_cons.mp h
      exact ⟨hname, ih hrest⟩

end Pieces

/-- A part of an outline as a tree. -/
def Node.nesting : Node → Nesting
  | .piece part => Piece.nesting [part]
  | .positive name body => .block .positive name (Piece.nesting body) .nil
  | .negative name body => .block .negative name (Piece.nesting body) .nil

namespace Node

variable (node : Node)

theorem source_nesting : node.nesting.source = node.source := by
  cases node with
  | piece part => simp [nesting, source, Piece.source_nesting, Piece.sourceAll]
  | positive name body =>
      simp [nesting, Nesting.source, source, Piece.source_nesting, Polarity.sigil]
  | negative name body =>
      simp [nesting, Nesting.source, source, Piece.source_nesting, Polarity.sigil]

theorem bodyNames_nesting : node.nesting.bodyNames = node.bodyNames := by
  cases node with
  | piece part => cases part <;> rfl
  | positive name body => simp [nesting, Nesting.bodyNames, bodyNames, Piece.valueNames_nesting]
  | negative name body => simp [nesting, Nesting.bodyNames, bodyNames, Piece.valueNames_nesting]

variable {node}

theorem isSettled_nesting (h : node.IsWritten) : node.nesting.IsSettled := by
  cases node with
  | piece part => exact Piece.isSettled_nesting fun other hother => List.mem_singleton.mp hother ▸ h
  | positive name body => exact ⟨Piece.isSettled_nesting h.2, trivial⟩
  | negative name body => exact ⟨Piece.isSettled_nesting h.2, trivial⟩

theorem isProper_nesting (h : node.IsWritten) : node.nesting.IsProper := by
  cases node with
  | piece part => exact Piece.isProper_nesting fun other hother => List.mem_singleton.mp hother ▸ h
  | positive name body => exact ⟨h.1, by simp, Piece.isProper_nesting h.2, trivial⟩
  | negative name body => exact ⟨h.1, by simp, Piece.isProper_nesting h.2, trivial⟩

/-! ## What the passes make of one part -/

theorem source_repeatEach (scope : Scope) (body : List Piece) (items : List Context) :
    (Nesting.repeatEach scope (Piece.nesting body) items).source =
      items.flatMap fun item => Piece.evaluateAll (scope.push item) body := by
  rw [Nesting.source_repeatEach]
  refine List.flatMap_congr fun item _ => ?_
  rw [Nesting.resolveSections_eq_self (Piece.blocks_nesting body),
    Piece.source_fillValues_nesting]

/-- The passes show of each part what it means. -/
theorem source_fillValues_expand (scope : Scope) :
    ((node.nesting.expand scope).fillValues scope).source = node.evaluate scope := by
  cases node with
  | piece part =>
      rw [nesting, Nesting.expand_eq_self (Piece.blocks_nesting _),
        Piece.source_fillValues_nesting]
      simp [evaluate, Piece.evaluateAll]
  | positive name body =>
      rw [nesting, Nesting.expand_positive (Piece.blocks_nesting body), evaluate]
      cases scope.lookup? name with
      | none => rfl
      | some binding =>
          cases binding with
          | scalar held =>
              by_cases hheld : held.isTruthy
              · simp [hheld, Piece.source_fillValues_nesting]
              · simp [hheld, Nesting.fillValues, Nesting.source]
          | sequence items =>
              -- the elements have filled in their values, so the last pass finds none
              have hfilled :
                  (Nesting.repeatEach scope (Piece.nesting body) items).fillValues scope =
                    Nesting.repeatEach scope (Piece.nesting body) items :=
                Nesting.fillValues_eq_self Nesting.valueNames_repeatEach
              rw [hfilled]
              exact source_repeatEach scope body items
  | negative name body =>
      rw [nesting, Nesting.expand_negative (Piece.blocks_nesting body), evaluate,
        Nesting.keepUnlessTruthy]
      split
      · rfl
      · exact Piece.source_fillValues_nesting body scope

/-- The loop pass leaves a part settled when it repeats over settled values only. -/
theorem isSettled_expand_nesting {scope : Scope} (hwritten : node.IsWritten)
    (hvalue : ∀ name body items, node = .positive name body →
      scope.lookup? name = some (.sequence items) → ∀ item ∈ items,
        ∀ other ∈ body.filterMap Piece.name?, ((scope.push item).toText other).IsSettled) :
    (node.nesting.expand scope).IsSettled := by
  have hsettled := isSettled_nesting hwritten
  cases node with
  | piece part => rwa [nesting, Nesting.expand_eq_self (Piece.blocks_nesting _)]
  | positive name body =>
      have hbody : (Piece.nesting body).IsSettled := hsettled.1
      rw [nesting, Nesting.expand_positive (Piece.blocks_nesting body)]
      split
      · next items hitems =>
          refine Nesting.isSettled_repeatEach hbody fun item hitem other hother => ?_
          rw [Piece.valueNames_nesting] at hother
          exact hvalue name body items rfl hitems item hitem other hother
      · split
        · exact hbody
        · trivial
      · trivial
  | negative name body =>
      rw [nesting, Nesting.expand_negative (Piece.blocks_nesting body)]
      exact Nesting.isSettled_keepUnlessTruthy hsettled.1

end Node

namespace Outline

/-- An outline as a tree. -/
def nesting : Outline → Nesting
  | [] => .nil
  | node :: rest => node.nesting ++ nesting rest

section Nesting

variable (outline : Outline)

theorem source_nesting : (nesting outline).source = source outline := by
  induction outline with
  | nil => rfl
  | cons node rest ih => simp [nesting, ih, Node.source_nesting, source]

theorem bodyNames_nesting : (nesting outline).bodyNames = bodyNames outline := by
  induction outline with
  | nil => rfl
  | cons node rest ih => simp [nesting, ih, Node.bodyNames_nesting, bodyNames]

theorem source_fillValues_expand (scope : Scope) :
    (((nesting outline).expand scope).fillValues scope).source = evaluate scope outline := by
  induction outline with
  | nil => rfl
  | cons node rest ih => simp [nesting, ih, Node.source_fillValues_expand, evaluate]

variable {outline}

theorem isSettled_nesting (h : IsWritten outline) : (nesting outline).IsSettled := by
  induction outline with
  | nil => trivial
  | cons node rest ih =>
      obtain ⟨hnode, hrest⟩ := List.forall_mem_cons.mp h
      exact Nesting.isSettled_append.mpr ⟨Node.isSettled_nesting hnode, ih hrest⟩

theorem isProper_nesting (h : IsWritten outline) : (nesting outline).IsProper := by
  induction outline with
  | nil => trivial
  | cons node rest ih =>
      obtain ⟨hnode, hrest⟩ := List.forall_mem_cons.mp h
      exact Nesting.isProper_append.mpr ⟨Node.isProper_nesting hnode, ih hrest⟩

end Nesting

/-- What the repeated blocks of an outline show for each element is settled. -/
def RepeatsSettled (outline : Outline) (scope : Scope) : Prop :=
  ∀ name body items, .positive name body ∈ outline →
    scope.lookup? name = some (.sequence items) → ∀ item ∈ items,
      ∀ other ∈ body.filterMap Piece.name?, ((scope.push item).toText other).IsSettled

theorem isSettled_expand_nesting {outline : Outline} {scope : Scope} (hwritten : IsWritten outline)
    (hvalue : RepeatsSettled outline scope) : ((nesting outline).expand scope).IsSettled := by
  induction outline with
  | nil => trivial
  | cons node rest ih =>
      obtain ⟨hnode, hrest⟩ := List.forall_mem_cons.mp hwritten
      have hfirst : (node.nesting.expand scope).IsSettled := by
        refine Node.isSettled_expand_nesting hnode fun name body items hpositive hitems => ?_
        exact hvalue name body items (hpositive ▸ List.mem_cons_self ..) hitems
      have hothers : ((nesting rest).expand scope).IsSettled := by
        refine ih hrest fun name body items hpositive hitems => ?_
        exact hvalue name body items (List.mem_cons_of_mem _ hpositive) hitems
      rw [nesting, Nesting.expand_append]
      exact Nesting.isSettled_append.mpr ⟨hfirst, hothers⟩

/-- Rendering an outline shows what it means when its repeated blocks show settled values. -/
theorem renderText_eq_evaluate_of_repeatsSettled {outline : Outline} {context : Context}
    (hwritten : outline.IsWritten) (hvalue : outline.RepeatsSettled (.ofContext context)) :
    Template.renderText outline.source context = outline.evaluate (.ofContext context) := by
  rw [← source_nesting, ← source_fillValues_expand]
  exact Nesting.renderText_source (isSettled_nesting hwritten) (isProper_nesting hwritten)
    (isSettled_expand_nesting hwritten hvalue)

/-- **Rendering an outline shows what it means**, unless a value with braces stands in a
block that repeats. -/
theorem renderText_eq_evaluate {outline : Outline} {context : Context}
    (hwritten : outline.IsWritten)
    (hitems : ∀ name items item text, context.get? name = some (.sequence items) →
      item ∈ items → item.Holds text → '{' ∉ text)
    (hroot : ∀ name ∈ outline.bodyNames, ∀ text,
      context.get? name = some (.scalar (.text text)) → '{' ∉ text) :
    Template.renderText outline.source context = outline.evaluate (.ofContext context) := by
  have hexpand : ((nesting outline).expand (.ofContext context)).IsSettled := by
    refine Nesting.isSettled_expand (isSettled_nesting hwritten) ?_
    intro name items item hlookup hitem other hother
    rw [bodyNames_nesting] at hother
    refine Text.isSettled_of_notMem (Context.openBrace_notMem_toText_push ?_ (hroot other hother))
    exact fun text htext => hitems name items item text hlookup hitem htext
  rw [← source_nesting, ← source_fillValues_expand]
  exact Nesting.renderText_source (isSettled_nesting hwritten) (isProper_nesting hwritten) hexpand

/-- A title, and the names of a list under it. -/
def roster : Outline :=
  [value "Title", text ": ", whenTrue "People" [val "Name", lit ", "],
    whenFalse "People" [lit "nobody"]]

/-- Two names for the list. -/
def people : Context :=
  .ofList [("Title".toList, .ofText "Staff".toList),
    ("People".toList, .sequence [.ofList [("Name".toList, .ofText "Ann".toList)],
      .ofList [("Name".toList, .ofText "Bob".toList)]])]

theorem renderText_roster :
    Template.renderText roster.source people = "Staff: Ann, Bob, ".toList := by
  have htexts : ∀ text ∈ people.texts, '{' ∉ text := by decide +kernel
  refine (renderText_eq_evaluate (by decide +kernel) ?_ ?_).trans (by decide +kernel)
  · intro name items item text hitems hitem hholds
    exact htexts text (Context.Holds.inside hitems hitem hholds).mem_texts
  · intro name _ text hbound
    exact htexts text (Context.Holds.here hbound).mem_texts

end Outline

end Invoicing
