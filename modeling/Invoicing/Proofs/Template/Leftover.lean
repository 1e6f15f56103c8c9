import Invoicing.Proofs.Binding.Texts
import Invoicing.Proofs.Template.Reading
import Invoicing.Proofs.Template.Rendering

/-!
# Blocks that stay in the output

A clean template can still leave block markers in its output, because no sweep looks
again at a body that it has kept.  Each sweep decides on the outermost blocks of its sign
only, and there are few sweeps: on the way down to a block, the root decides on one `#`
block and one `^` block, and so does every element of a sequence that repeats on the way.
A block for which no decision is left stays.

`isResolved` follows this book-keeping down the tree of a template and never looks at an
intermediate text.  Main statement: `isBlockFree_renderText_iff`.  A clean template shows
no block marker exactly when every block that is met is decided on.

## Strategy

A sweep spends one decision.  So the tree before the sweep passes with the decision in
hand exactly when the tree after it passes without (`isCleared_replace_positive` and its
three companions).  When all decisions are spent, only a tree without blocks passes.
-/

namespace Invoicing.Nesting

/-- Whether no block is left of the body of a repeated block.  Each scope of the two lists
decides on one `#` block, or one `^` block, on the way down; no sequence repeats there. -/
def isCleared (positives negatives : List Scope) : Nesting → Bool
  | nil => true
  | text _ rest => rest.isCleared positives negatives
  | value _ rest => rest.isCleared positives negatives
  | block .positive name body rest =>
      (match positives with
        | [] => false
        | scope :: later =>
            match scope.lookup? name with
            | none => true
            | some (.sequence _) => false
            | some (.scalar held) => !held.isTruthy || body.isCleared later negatives) &&
        rest.isCleared positives negatives
  | block .negative name body rest =>
      (match negatives with
        | [] => false
        | scope :: later => scope.isTruthy name || body.isCleared positives later) &&
        rest.isCleared positives negatives

/-- Whether no block is left of a template.  As long as it is fresh, the root decides on a
`#` block; on `^` blocks the scopes of the list decide.  A `#` block over a sequence
repeats, and the element joins in the decisions on its body. -/
def isResolved (root : Scope) (fresh : Bool) (negatives : List Scope) : Nesting → Bool
  | nil => true
  | text _ rest => rest.isResolved root fresh negatives
  | value _ rest => rest.isResolved root fresh negatives
  | block .positive name body rest =>
      (match root.lookup? name with
        | none => true
        | some (.sequence items) => items.all fun item =>
            body.isCleared [root.push item] (negatives ++ [root.push item])
        | some (.scalar held) => !(fresh && held.isTruthy) || body.isResolved root false negatives) &&
        rest.isResolved root fresh negatives
  | block .negative name body rest =>
      (match negatives with
        | [] => false
        | scope :: later => scope.isTruthy name || body.isResolved root fresh later) &&
        rest.isResolved root fresh negatives

section Decisions

variable {root scope : Scope} {fresh : Bool} {positives negatives : List Scope}

@[simp] theorem isCleared_nil : nil.isCleared positives negatives = true := rfl

@[simp] theorem isCleared_positive (name : Text) (body rest : Nesting) :
    (block .positive name body rest).isCleared positives negatives =
      ((match positives with
        | [] => false
        | scope :: later =>
            match scope.lookup? name with
            | none => true
            | some (.sequence _) => false
            | some (.scalar held) => !held.isTruthy || body.isCleared later negatives) &&
        rest.isCleared positives negatives) := rfl

@[simp] theorem isCleared_negative (name : Text) (body rest : Nesting) :
    (block .negative name body rest).isCleared positives negatives =
      ((match negatives with
        | [] => false
        | scope :: later => scope.isTruthy name || body.isCleared positives later) &&
        rest.isCleared positives negatives) := rfl

@[simp] theorem isResolved_nil : nil.isResolved root fresh negatives = true := rfl

@[simp] theorem isResolved_positive (name : Text) (body rest : Nesting) :
    (block .positive name body rest).isResolved root fresh negatives =
      ((match root.lookup? name with
        | none => true
        | some (.sequence items) => items.all fun item =>
            body.isCleared [root.push item] (negatives ++ [root.push item])
        | some (.scalar held) =>
            !(fresh && held.isTruthy) || body.isResolved root false negatives) &&
        rest.isResolved root fresh negatives) := rfl

@[simp] theorem isResolved_negative (name : Text) (body rest : Nesting) :
    (block .negative name body rest).isResolved root fresh negatives =
      ((match negatives with
        | [] => false
        | scope :: later => scope.isTruthy name || body.isResolved root fresh later) &&
        rest.isResolved root fresh negatives) := rfl

@[simp] theorem isCleared_append (first second : Nesting) :
    (first ++ second).isCleared positives negatives =
      (first.isCleared positives negatives && second.isCleared positives negatives) := by
  induction first with
  | nil => rfl
  | text content rest ih => exact ih
  | value name rest ih => exact ih
  | block polarity name body rest _ ih =>
      cases polarity <;> simp [ih, Bool.and_assoc]

@[simp] theorem isResolved_append (first second : Nesting) :
    (first ++ second).isResolved root fresh negatives =
      (first.isResolved root fresh negatives && second.isResolved root fresh negatives) := by
  induction first with
  | nil => rfl
  | text content rest ih => exact ih
  | value name rest ih => exact ih
  | block polarity name body rest _ ih =>
      cases polarity <;> simp [ih, Bool.and_assoc]

/-- Without decisions, only a body without blocks is cleared. -/
theorem isCleared_nil_iff {nest : Nesting} : nest.isCleared [] [] ↔ nest.blocks = [] := by
  induction nest with
  | nil => simp [blocks]
  | text content rest ih => exact ih
  | value name rest ih => exact ih
  | block polarity name body rest _ _ => cases polarity <;> simp [blocks]

/-! ## A sweep spends a decision -/

theorem isCleared_replace_positive (nest : Nesting) :
    (nest.replace .positive (keepOrDrop scope)).isCleared [] negatives =
      nest.isCleared [scope] negatives := by
  induction nest generalizing negatives with
  | nil => rfl
  | text content rest ih => exact ih
  | value name rest ih => exact ih
  | block polarity name body rest ihBody ihRest =>
      cases polarity with
      | positive =>
          simp only [replace, if_true, isCleared_append, isCleared_positive, ihRest]
          unfold keepOrDrop
          cases scope.lookup? name with
          | none => rfl
          | some binding =>
              cases binding with
              -- the block stays as it is, and no decision is left for it
              | sequence items => rfl
              | scalar held => by_cases hheld : held.isTruthy <;> simp [hheld]
      | negative =>
          simp only [replace, reduceCtorEq, if_false, isCleared_negative, ihRest]
          cases negatives with
          | nil => rfl
          | cons next later => simp [ihBody]

theorem isCleared_replace_negative (nest : Nesting) :
    (nest.replace .negative (keepUnlessTruthy scope)).isCleared positives negatives =
      nest.isCleared positives (scope :: negatives) := by
  induction nest generalizing positives with
  | nil => rfl
  | text content rest ih => exact ih
  | value name rest ih => exact ih
  | block polarity name body rest ihBody ihRest =>
      cases polarity with
      | positive =>
          simp only [replace, reduceCtorEq, if_false, isCleared_positive, ihRest]
          cases positives with
          | nil => rfl
          | cons next later => simp [ihBody]
      | negative =>
          simp only [replace, if_true, isCleared_append, isCleared_negative, ihRest]
          unfold keepUnlessTruthy
          cases scope.isTruthy name <;> simp

/-- What an element leaves of a body. -/
theorem blocks_resolveSections_eq_nil_iff {nest : Nesting} :
    (nest.resolveSections scope).blocks = [] ↔ nest.isCleared [scope] [scope] := by
  rw [← isCleared_nil_iff, resolveSections, isCleared_replace_negative,
    isCleared_replace_positive]

theorem isResolved_replace_positive (nest : Nesting) :
    (nest.replace .positive (keepOrDrop root)).isResolved root false negatives =
      nest.isResolved root true negatives := by
  induction nest generalizing negatives with
  | nil => rfl
  | text content rest ih => exact ih
  | value name rest ih => exact ih
  | block polarity name body rest ihBody ihRest =>
      cases polarity with
      | positive =>
          simp only [replace, if_true, isResolved_append, isResolved_positive, ihRest]
          unfold keepOrDrop
          cases hlookup : root.lookup? name with
          | none => rfl
          | some binding =>
              cases binding with
              | sequence items => simp [hlookup]
              | scalar held => by_cases hheld : held.isTruthy <;> simp [hheld]
      | negative =>
          simp only [replace, reduceCtorEq, if_false, isResolved_negative, ihRest]
          cases negatives with
          | nil => rfl
          | cons next later => simp [ihBody]

theorem isResolved_replace_negative (nest : Nesting) :
    (nest.replace .negative (keepUnlessTruthy root)).isResolved root fresh negatives =
      nest.isResolved root fresh (root :: negatives) := by
  induction nest generalizing fresh with
  | nil => rfl
  | text content rest ih => exact ih
  | value name rest ih => exact ih
  | block polarity name body rest ihBody ihRest =>
      cases polarity with
      | positive =>
          -- the sweep goes on inside a block that will be repeated, before any element is there
          simp only [replace, reduceCtorEq, if_false, isResolved_positive, ihRest, ihBody,
            isCleared_replace_negative, List.cons_append]
      | negative =>
          simp only [replace, if_true, isResolved_append, isResolved_negative, ihRest]
          unfold keepUnlessTruthy
          cases root.isTruthy name <;> simp

theorem blocks_repeatEach_eq_nil_iff {body : Nesting} {items : List Context} :
    (repeatEach root body items).blocks = [] ↔
      ∀ item ∈ items, body.isCleared [root.push item] [root.push item] := by
  induction items with
  | nil => simp [repeatEach, blocks]
  | cons item items ih => simp [repeatEach, ih, blocks_resolveSections_eq_nil_iff]

/-- What the loop pass leaves of a template. -/
theorem blocks_expandLoops_eq_nil_iff {nest : Nesting} :
    (nest.expandLoops root).blocks = [] ↔ nest.isResolved root false [] := by
  unfold expandLoops
  induction nest with
  | nil => simp [replace, blocks]
  | text content rest ih => exact ih
  | value name rest ih => exact ih
  | block polarity name body rest _ ihRest =>
      cases polarity with
      | positive =>
          simp only [replace, if_true, blocks_append, List.append_eq_nil_iff, ihRest,
            isResolved_positive, Bool.and_eq_true]
          refine and_congr_left' ?_
          unfold repeatBody
          cases root.lookup? name with
          | none => simp [blocks]
          | some binding =>
              cases binding with
              | scalar held => simp [blocks]
              | sequence items => simp [blocks_repeatEach_eq_nil_iff]
      | negative => simp [replace, blocks]

/-- No block is left exactly when every block that is met is decided on. -/
theorem blocks_expand_eq_nil_iff {nest : Nesting} :
    (nest.expand root).blocks = [] ↔ nest.isResolved root true [root] := by
  rw [expand, blocks_expandLoops_eq_nil_iff, resolveSections, isResolved_replace_negative,
    isResolved_replace_positive]

end Decisions

/-! ## Clean templates -/

open Template

section Clean

variable {source : Text} {context : Context}

theorem isSettled_expand_ofContext {nest : Nesting} (hsettled : nest.IsSettled)
    (hcontext : ∀ text, context.Holds text → '{' ∉ text) :
    (nest.expand (.ofContext context)).IsSettled := by
  refine isSettled_expand hsettled fun name items item hitems hitem other _ => ?_
  refine Text.isSettled_of_notMem (Context.openBrace_notMem_toText_push ?_ ?_)
  · intro text htext
    exact hcontext text (.inside hitems hitem htext)
  · intro text htext
    exact hcontext text (.here htext)

/-- A clean template is rendered by the passes on its tree. -/
theorem renderText_eq_of_isClean (hclean : (analyze source).isClean)
    (hliteral : ∀ content, .literal content ∈ tokens source → content.IsSettled)
    (hcontext : ∀ text, context.Holds text → '{' ∉ text) :
    renderText source context = (((ofText source).expand (.ofContext context)).fillValues
      (.ofContext context)).source := by
  have hsettled := isSettled_ofText hclean hliteral
  have hexpand := isSettled_expand_ofContext hsettled hcontext
  rw [← renderText_source hsettled (isProper_ofText hclean) hexpand, source_ofText]

/-- **What a clean template leaves.**  In a context whose texts hold no opening braces, its
output shows no block marker exactly when every block that is met is decided on. -/
theorem isBlockFree_renderText_iff (hclean : (analyze source).isClean)
    (hliteral : ∀ content, .literal content ∈ tokens source → content.IsSettled)
    (hcontext : ∀ text, context.Holds text → '{' ∉ text) :
    (renderText source context).IsBlockFree ↔
      (ofText source).isResolved (.ofContext context) true [.ofContext context] := by
  have hexpand := isSettled_expand_ofContext (isSettled_ofText hclean hliteral) hcontext
  have hfilled : (((ofText source).expand (.ofContext context)).fillValues
      (.ofContext context)).IsSettled := by
    refine isSettled_fillValues hexpand fun name _ => ?_
    exact Text.isSettled_of_notMem (Scope.openBrace_notMem_toText fun text htext =>
      hcontext text (.here htext))
  have hproper : ((ofText source).expand (.ofContext context)).IsProper :=
    isProper_expand (isProper_ofText hclean)
  rw [renderText_eq_of_isClean hclean hliteral hcontext,
    isBlockFree_source_iff hfilled (isProper_fillValues hproper), blocks_fillValues,
    List.map_eq_nil_iff, blocks_expand_eq_nil_iff]

end Clean

/-! ## Shapes that leave a marker -/

/-- A sequence inside an element of a sequence. -/
def nestedSequences : Text × Context :=
  (Block.text .hash ⟨"L".toList, Block.text .hash ⟨"M".toList, ['x']⟩⟩,
    .ofList [("L".toList, .sequence [.ofList [("M".toList, .sequence [.empty])]])])

/-- A block kept for an element inside another one. -/
def nestedInElement : Text × Context :=
  (Block.text .hash ⟨"L".toList, Block.text .hash ⟨"A".toList,
      Block.text .hash ⟨"B".toList, ['x']⟩⟩⟩,
    .ofList [("L".toList, .sequence [.empty]), ("A".toList, .ofBool true),
      ("B".toList, .ofBool true)])

/-- A `^` block inside another one. -/
def nestedNegatives : Text × Context :=
  (Block.text .caret ⟨"A".toList, Block.text .caret ⟨"B".toList, ['x']⟩⟩, .empty)

/-- A brace that meets another one when the block between them is dropped. -/
def meetingBraces : Text × Context :=
  ('{' :: (Block.text .hash ⟨"A".toList, ['x']⟩ ++ ['{', '/', 'B', '}', '}']), .empty)

/-- Each of the shapes is clean and shows a block marker. -/
theorem not_isBlockFree_of_mem {shape : Text × Context}
    (h : shape ∈ [nestedSequences, nestedInElement, nestedNegatives, meetingBraces]) :
    (analyze shape.1).isClean ∧ (∀ text ∈ shape.2.texts, '{' ∉ text) ∧
      ¬ (renderText shape.1 shape.2).IsBlockFree := by
  simp only [List.mem_cons, List.not_mem_nil, or_false] at h
  rcases h with rfl | rfl | rfl | rfl <;> decide +kernel

/-- A clean template can show a block marker, and one of whose blocks each is decided on can
still show one when braces of its text meet. -/
theorem not_isBlockFree_renderText :
    (¬ ∀ (source : Text) (context : Context), (analyze source).isClean →
      (∀ text, context.Holds text → '{' ∉ text) → (renderText source context).IsBlockFree) ∧
    (¬ ∀ (source : Text) (context : Context), (analyze source).isClean →
      (∀ text, context.Holds text → '{' ∉ text) →
        (ofText source).isResolved (.ofContext context) true [.ofContext context] →
          (renderText source context).IsBlockFree) := by
  constructor
  · intro h
    obtain ⟨hclean, htexts, hmarker⟩ := @not_isBlockFree_of_mem nestedNegatives (by simp)
    exact hmarker (h _ _ hclean fun text htext => htexts text htext.mem_texts)
  · intro h
    obtain ⟨hclean, htexts, hmarker⟩ := @not_isBlockFree_of_mem meetingBraces (by simp)
    exact hmarker (h _ _ hclean (fun text htext => htexts text htext.mem_texts) (by decide +kernel))

/-- Sections of a repeated block. -/
def sectionsInElement : Text × Context :=
  (Block.text .hash ⟨"L".toList,
      Block.text .hash ⟨"A".toList, (Marker.mk .plain "V".toList).text⟩ ++
        Block.text .caret ⟨"A".toList, ['-']⟩⟩,
    .ofList [("L".toList, .sequence [.ofList [("A".toList, .ofBool true),
      ("V".toList, .ofText "x".toList)], .empty])])

theorem isBlockFree_renderText_sectionsInElement :
    (renderText sectionsInElement.1 sectionsInElement.2).IsBlockFree := by
  have htexts : ∀ text ∈ sectionsInElement.2.texts, '{' ∉ text := by decide +kernel
  have htidy : ∀ token ∈ tokens sectionsInElement.1, token.marker? = none → token.text.IsTidy := by
    decide +kernel
  refine (isBlockFree_renderText_iff (by decide +kernel) ?_ ?_).mpr (by decide +kernel)
  · intro content hcontent
    have hliteral : content.IsTidy := htidy _ hcontent rfl
    exact hliteral.isSettled
  · intro text htext
    exact htexts text htext.mem_texts

end Invoicing.Nesting
