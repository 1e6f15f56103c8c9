import Invoicing.Proofs.Marker.Sweep

/-!
# Well-nested templates

A template whose blocks lie beside or inside one another is a tree: texts, values, and
blocks with such a tree as their body.  `Nesting` is that tree and `Nesting.source` its
written form.

The renderer pairs an opening marker with the first closing marker of its name, whatever
lies between.  That is the closing marker of its own block as long as no block lies
inside another one of its name (`Nesting.IsProper`).  The texts have to be settled, for
otherwise taking a block out could bring braces together that make a new marker
(`Nesting.IsSettled`).  Under both conditions the markers of the written form are those of
the tree (`Nesting.markersOf_source`).
-/

namespace Invoicing

/-- What a block asks of its name. -/
inductive Polarity where
  /-- A `#` block. -/
  | positive
  /-- A `^` block. -/
  | negative
  deriving DecidableEq, Repr

namespace Polarity

/-- The sign that opens the block. -/
def sigil : Polarity → Sigil
  | positive => .hash
  | negative => .caret

theorem sigil_ne_plain (polarity : Polarity) : polarity.sigil ≠ .plain := by
  cases polarity <;> decide

theorem slash_ne_sigil (polarity : Polarity) : Sigil.slash ≠ polarity.sigil := by
  cases polarity <;> decide

theorem sigil_injective {first second : Polarity} (h : first.sigil = second.sigil) :
    first = second := by
  cases first <;> cases second <;> simp_all [sigil]

end Polarity

/-- A well-nested template: its first part, and what stands beside it. -/
inductive Nesting where
  /-- The empty template. -/
  | nil
  /-- Literal text. -/
  | text (content : Text) (rest : Nesting)
  /-- The value of a name. -/
  | value (name : Text) (rest : Nesting)
  /-- A block with its body. -/
  | block (polarity : Polarity) (name : Text) (body rest : Nesting)
  deriving DecidableEq, Repr

namespace Nesting

/-- A block of a template, at any depth. -/
structure Part where
  /-- What the block asks of its name. -/
  polarity : Polarity
  /-- The name on its markers. -/
  name : Text
  /-- What stands between its markers. -/
  body : Nesting
  deriving DecidableEq, Repr

/-- Two templates one after the other. -/
def append : Nesting → Nesting → Nesting
  | nil, second => second
  | text content rest, second => text content (append rest second)
  | value name rest, second => value name (append rest second)
  | block polarity name body rest, second => block polarity name body (append rest second)

instance : Append Nesting := ⟨append⟩

/-- The template as it is written. -/
def source : Nesting → Text
  | nil => []
  | text content rest => content ++ rest.source
  | value name rest => (Marker.mk .plain name).text ++ rest.source
  | block polarity name body rest => Block.text polarity.sigil ⟨name, body.source⟩ ++ rest.source

/-- The markers in the order of the written form. -/
def markers : Nesting → List Marker
  | nil => []
  | text _ rest => rest.markers
  | value name rest => ⟨.plain, name⟩ :: rest.markers
  | block polarity name body rest =>
      ⟨polarity.sigil, name⟩ :: (body.markers ++ ⟨.slash, name⟩ :: rest.markers)

/-- All blocks, at any depth. -/
def blocks : Nesting → List Part
  | nil => []
  | text _ rest => rest.blocks
  | value _ rest => rest.blocks
  | block polarity name body rest => ⟨polarity, name, body⟩ :: (body.blocks ++ rest.blocks)

/-- The names whose values are asked for, at any depth. -/
def valueNames : Nesting → List Text
  | nil => []
  | text _ rest => rest.valueNames
  | value name rest => name :: rest.valueNames
  | block _ _ body rest => body.valueNames ++ rest.valueNames

/-- The names whose values are asked for inside a block. -/
def bodyNames : Nesting → List Text
  | nil => []
  | text _ rest => rest.bodyNames
  | value _ rest => rest.bodyNames
  | block _ _ body rest => body.valueNames ++ rest.bodyNames

/-- The texts are settled, so no marker can arise between the parts. -/
def IsSettled : Nesting → Prop
  | nil => True
  | text content rest => content.IsSettled ∧ rest.IsSettled
  | value _ rest => rest.IsSettled
  | block _ _ body rest => body.IsSettled ∧ rest.IsSettled

/-- The names are names, and no block lies inside another one of its name. -/
def IsProper : Nesting → Prop
  | nil => True
  | text _ rest => rest.IsProper
  | value name rest => Marker.IsName name ∧ rest.IsProper
  | block _ name body rest =>
      Marker.IsName name ∧ (∀ part ∈ body.blocks, part.name ≠ name) ∧
        body.IsProper ∧ rest.IsProper

/-! ## Templates one after the other -/

section Append

variable (second : Nesting)

@[simp] theorem nil_append : nil ++ second = second := rfl

@[simp] theorem text_append (content : Text) (rest : Nesting) :
    text content rest ++ second = text content (rest ++ second) := rfl

@[simp] theorem value_append (name : Text) (rest : Nesting) :
    value name rest ++ second = value name (rest ++ second) := rfl

@[simp] theorem block_append (polarity : Polarity) (name : Text) (body rest : Nesting) :
    block polarity name body rest ++ second = block polarity name body (rest ++ second) := rfl

@[simp] theorem append_nil (first : Nesting) : first ++ nil = first := by
  induction first <;> simp_all

theorem append_assoc (first third : Nesting) :
    first ++ second ++ third = first ++ (second ++ third) := by
  induction first <;> simp_all

@[simp] theorem source_append (first : Nesting) :
    (first ++ second).source = first.source ++ second.source := by
  induction first with
  | nil => rfl
  | text content rest ih => simp [source, ih]
  | value name rest ih => simp [source, ih]
  | block polarity name body rest _ ih => simp [source, ih]

@[simp] theorem markers_append (first : Nesting) :
    (first ++ second).markers = first.markers ++ second.markers := by
  induction first with
  | nil => rfl
  | text content rest ih => exact ih
  | value name rest ih => simp [markers, ih]
  | block polarity name body rest _ ih => simp [markers, ih]

@[simp] theorem blocks_append (first : Nesting) :
    (first ++ second).blocks = first.blocks ++ second.blocks := by
  induction first with
  | nil => rfl
  | text content rest ih => simp [blocks, ih]
  | value name rest ih => simp [blocks, ih]
  | block polarity name body rest _ ih => simp [blocks, ih]

@[simp] theorem valueNames_append (first : Nesting) :
    (first ++ second).valueNames = first.valueNames ++ second.valueNames := by
  induction first with
  | nil => rfl
  | text content rest ih => simp [valueNames, ih]
  | value name rest ih => simp [valueNames, ih]
  | block polarity name body rest _ ih => simp [valueNames, ih]

@[simp] theorem bodyNames_append (first : Nesting) :
    (first ++ second).bodyNames = first.bodyNames ++ second.bodyNames := by
  induction first with
  | nil => rfl
  | text content rest ih => simp [bodyNames, ih]
  | value name rest ih => simp [bodyNames, ih]
  | block polarity name body rest _ ih => simp [bodyNames, ih]

@[simp] theorem isSettled_append {first second : Nesting} :
    (first ++ second).IsSettled ↔ first.IsSettled ∧ second.IsSettled := by
  induction first with
  | nil => simp [IsSettled]
  | text content rest ih => simp [IsSettled, ih, and_assoc]
  | value name rest ih => simp [IsSettled, ih]
  | block polarity name body rest _ ih => simp [IsSettled, ih, and_assoc]

@[simp] theorem isProper_append {first second : Nesting} :
    (first ++ second).IsProper ↔ first.IsProper ∧ second.IsProper := by
  induction first with
  | nil => simp [IsProper]
  | text content rest ih => simp [IsProper, ih]
  | value name rest ih => simp [IsProper, ih, and_assoc]
  | block polarity name body rest _ ih => simp [IsProper, ih, and_assoc]

end Append

/-- A block inside a block of a template is a block of the template. -/
theorem blocks_subset {nest : Nesting} {part : Part} (h : part ∈ nest.blocks) :
    part.body.blocks ⊆ nest.blocks := by
  induction nest with
  | nil => simp [blocks] at h
  | text content rest ih => exact ih h
  | value name rest ih => exact ih h
  | block polarity name body rest ihBody ihRest =>
      simp only [blocks, List.mem_cons, List.mem_append] at h
      intro inner hinner
      simp only [blocks, List.mem_cons, List.mem_append]
      rcases h with rfl | h | h
      · exact Or.inr (Or.inl hinner)
      · exact Or.inr (Or.inl (ihBody h hinner))
      · exact Or.inr (Or.inr (ihRest h hinner))

theorem bodyNames_subset (nest : Nesting) : nest.bodyNames ⊆ nest.valueNames := by
  induction nest with
  | nil => exact List.Subset.refl _
  | text content rest ih => exact ih
  | value name rest ih => exact List.subset_cons_of_subset _ ih
  | block polarity name body rest _ ih =>
      intro other hother
      simp only [bodyNames, valueNames, List.mem_append] at hother ⊢
      exact hother.imp_right fun h => ih h

/-- The values of a block are asked for inside a block of the template. -/
theorem valueNames_subset {nest : Nesting} {part : Part} (h : part ∈ nest.blocks) :
    part.body.valueNames ⊆ nest.bodyNames := by
  induction nest with
  | nil => simp [blocks] at h
  | text content rest ih => exact ih h
  | value name rest ih => exact ih h
  | block polarity name body rest ihBody ihRest =>
      simp only [blocks, List.mem_cons, List.mem_append] at h
      intro other hother
      simp only [bodyNames, List.mem_append]
      rcases h with rfl | h | h
      · exact Or.inl hother
      · exact Or.inl (body.bodyNames_subset (ihBody h hother))
      · exact Or.inr (ihRest h hother)

/-! ## The markers of the written form -/

/-- The scanner finds the markers of the tree. -/
theorem markersOf_source {nest : Nesting} (hsettled : nest.IsSettled) (hproper : nest.IsProper) :
    markersOf nest.source = nest.markers := by
  induction nest with
  | nil => exact markersOf_nil
  | text content rest ih =>
      rw [source, markersOf_append_of_isSettledBefore (hsettled.1.before _), ih hsettled.2 hproper, markers]
  | value name rest ih =>
      rw [source, markersOf_text_append (by exact hproper.1), ih hsettled hproper.2, markers]
  | block polarity name body rest ihBody ihRest =>
      obtain ⟨hname, -, hbody, hrest⟩ := hproper
      rw [source, Block.markersOf_text_append (by exact hname), ihBody hsettled.1 hbody,
        ihRest hsettled.2 hrest, markers]

/-- A marker asks for a value or belongs to a block. -/
theorem sigil_eq_plain_or_mem_blocks {nest : Nesting} {marker : Marker}
    (h : marker ∈ nest.markers) :
    marker.sigil = .plain ∨ ∃ part ∈ nest.blocks, part.name = marker.name := by
  induction nest with
  | nil => simp [markers] at h
  | text content rest ih => exact ih h
  | value name rest ih =>
      rcases List.mem_cons.mp h with rfl | h
      · exact Or.inl rfl
      · exact ih h
  | block polarity name body rest ihBody ihRest =>
      simp only [markers, List.mem_cons, List.mem_append] at h
      simp only [blocks, List.mem_cons, List.mem_append]
      rcases h with rfl | h | rfl | h
      · exact Or.inr ⟨_, Or.inl rfl, rfl⟩
      · refine (ihBody h).imp_right ?_
        rintro ⟨part, hpart, hsame⟩
        exact ⟨part, Or.inr (Or.inl hpart), hsame⟩
      · exact Or.inr ⟨_, Or.inl rfl, rfl⟩
      · refine (ihRest h).imp_right ?_
        rintro ⟨part, hpart, hsame⟩
        exact ⟨part, Or.inr (Or.inr hpart), hsame⟩

theorem mem_markers_of_mem_blocks {nest : Nesting} {part : Part} (h : part ∈ nest.blocks) :
    ⟨part.polarity.sigil, part.name⟩ ∈ nest.markers := by
  induction nest with
  | nil => simp [blocks] at h
  | text content rest ih => exact ih h
  | value name rest ih => exact List.mem_cons_of_mem _ (ih h)
  | block polarity name body rest ihBody ihRest =>
      simp only [blocks, List.mem_cons, List.mem_append] at h
      simp only [markers, List.mem_cons, List.mem_append]
      rcases h with rfl | h | h
      · exact Or.inl rfl
      · exact Or.inr (Or.inl (ihBody h))
      · exact Or.inr (Or.inr (Or.inr (ihRest h)))

/-- The written form holds no block markers exactly when the tree has no blocks. -/
theorem isBlockFree_source_iff {nest : Nesting} (hsettled : nest.IsSettled)
    (hproper : nest.IsProper) : nest.source.IsBlockFree ↔ nest.blocks = [] := by
  rw [Text.isBlockFree_iff, markersOf_source hsettled hproper]
  constructor
  · intro h
    refine List.eq_nil_iff_forall_not_mem.mpr fun part hpart => ?_
    exact part.polarity.sigil_ne_plain (h _ (mem_markers_of_mem_blocks hpart))
  · intro h marker hmarker
    rcases sigil_eq_plain_or_mem_blocks hmarker with hplain | ⟨part, hpart, -⟩
    · exact hplain
    · simp [h] at hpart

/-- A body does not hold the closing marker of a name that none of its blocks has. -/
theorem not_closingText_isInfix_source {body : Nesting} (hsettled : body.IsSettled)
    (hproper : body.IsProper) {name : Text} (hname : Marker.IsName name)
    (h : ∀ part ∈ body.blocks, part.name ≠ name) :
    ¬ Block.closingText name <:+: body.source := by
  intro hclosing
  -- the scanner would find it, so it would be a marker of the tree
  have hmarker : ⟨.slash, name⟩ ∈ markersOf body.source :=
    mem_markersOf_iff.mpr ⟨hname, hclosing⟩
  rw [markersOf_source hsettled hproper] at hmarker
  rcases sigil_eq_plain_or_mem_blocks hmarker with hplain | ⟨part, hpart, hsame⟩
  · simp at hplain
  · exact h part hpart hsame

end Nesting

end Invoicing
