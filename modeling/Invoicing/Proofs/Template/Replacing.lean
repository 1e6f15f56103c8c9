import Invoicing.Proofs.Template.Nesting

/-!
# Sweeps over a well-nested template

A sweep replaces the blocks of one sign and never looks at what it has put in.  On the
tree of a template it replaces the outermost blocks of that sign, wherever they lie inside
blocks of the other one (`Nesting.replace`).

Main statement: `Nesting.replaceBlocks_source_append`.  Replacing the blocks of a sign in
the written form replaces them in the tree, whatever text comes after the template.

The renderer sweeps three times, so a sweep must leave a template as it was wanted: settled
(`Nesting.IsSettled.replace`), and proper, which holds when the replacements bring in no
names of their own (`Nesting.IsConservative`).
-/

namespace Invoicing

namespace Nesting

/-- The outermost blocks of a polarity, replaced. -/
def replace (polarity : Polarity) (replacement : Text → Nesting → Nesting) : Nesting → Nesting
  | nil => nil
  | text content rest => text content (rest.replace polarity replacement)
  | value name rest => value name (rest.replace polarity replacement)
  | block other name body rest =>
      if other = polarity then
        replacement name body ++ rest.replace polarity replacement
      else
        block other name (body.replace polarity replacement) (rest.replace polarity replacement)

/-! ## A sweep over the written form -/

/-- **A sweep over the written form is a sweep over the tree**, whatever text comes after
the template. -/
theorem replaceBlocks_source_append (polarity : Polarity) {replacement : Block → Text}
    {replaced : Text → Nesting → Nesting}
    (hreplacement : ∀ name body, body.IsSettled → body.IsProper →
      replacement ⟨name, body.source⟩ = (replaced name body).source)
    {nest : Nesting} (hsettled : nest.IsSettled) (hproper : nest.IsProper) (rest : Text) :
    replaceBlocks polarity.sigil replacement (nest.source ++ rest) =
      (nest.replace polarity replaced).source ++ replaceBlocks polarity.sigil replacement rest := by
  induction nest generalizing rest with
  | nil => rfl
  | text content next ih =>
      simp only [source, replace, List.append_assoc]
      rw [replaceBlocks_append_of_isSettledBefore _ (hsettled.1.before _), ih hsettled.2 hproper]
  | value name next ih =>
      simp only [source, replace, List.append_assoc]
      rw [replaceBlocks_text_append _ (by exact hproper.1) (polarity.sigil_ne_plain.symm),
        ih hsettled hproper.2]
  | block other name body next ihBody ihNext =>
      obtain ⟨hname, hnames, hbody, hnext⟩ := hproper
      by_cases hother : other = polarity
      · subst hother
        have hclosing := not_closingText_isInfix_source hsettled.1 hbody hname hnames
        simp only [source, replace, if_pos, source_append, List.append_assoc]
        rw [replaceBlocks_block_append _ hname hclosing, ihNext hsettled.2 hnext,
          hreplacement name body hsettled.1 hbody]
      · -- its two markers are copied, and the sweep goes on inside the body
        have hsigil : other.sigil ≠ polarity.sigil := fun h => hother (Polarity.sigil_injective h)
        simp only [source, replace, if_neg hother, Block.text, Block.closingText,
          List.append_assoc]
        rw [replaceBlocks_text_append _ (by exact hname) (by exact hsigil),
          ihBody hsettled.1 hbody,
          replaceBlocks_text_append _ (by exact hname) (by exact polarity.slash_ne_sigil),
          ihNext hsettled.2 hnext]

/-! ## What a sweep keeps -/

section Replace

variable {polarity : Polarity} {replacement : Text → Nesting → Nesting} {nest : Nesting}

@[simp] theorem replace_append (second : Nesting) :
    (nest ++ second).replace polarity replacement =
      nest.replace polarity replacement ++ second.replace polarity replacement := by
  induction nest with
  | nil => rfl
  | text content rest ih => simp [replace, ih]
  | value name rest ih => simp [replace, ih]
  | block other name body rest _ ih =>
      by_cases hother : other = polarity
      · simp [replace, hother, ih, append_assoc]
      · simp [replace, hother, ih]

/-- A sweep changes nothing where no block of its polarity stands. -/
theorem replace_eq_self (h : ∀ part ∈ nest.blocks, part.polarity ≠ polarity) :
    nest.replace polarity replacement = nest := by
  induction nest with
  | nil => rfl
  | text content rest ih => simp [replace, ih h]
  | value name rest ih => simp [replace, ih h]
  | block other name body rest ihBody ihRest =>
      simp only [blocks, List.mem_cons, List.mem_append] at h
      have hother : other ≠ polarity := h _ (Or.inl rfl)
      have hbody := ihBody fun part hpart => h part (Or.inr (Or.inl hpart))
      have hrest := ihRest fun part hpart => h part (Or.inr (Or.inr hpart))
      simp [replace, hother, hbody, hrest]

/-- Where a block after a sweep comes from: a replacement brought it in, or it is a block of
the other polarity with the blocks in it replaced. -/
def Arises (polarity : Polarity) (replacement : Text → Nesting → Nesting) (nest : Nesting)
    (part : Part) : Prop :=
  (∃ name body, ⟨polarity, name, body⟩ ∈ nest.blocks ∧ part ∈ (replacement name body).blocks) ∨
    (∃ other name body, other ≠ polarity ∧ ⟨other, name, body⟩ ∈ nest.blocks ∧
      part = ⟨other, name, body.replace polarity replacement⟩)

theorem Arises.mono {part : Part} {larger : Nesting} (h : Arises polarity replacement nest part)
    (hsubset : nest.blocks ⊆ larger.blocks) : Arises polarity replacement larger part := by
  rcases h with ⟨name, body, hmem, hpart⟩ | ⟨other, name, body, hother, hmem, hpart⟩
  · exact Or.inl ⟨name, body, hsubset hmem, hpart⟩
  · exact Or.inr ⟨other, name, body, hother, hsubset hmem, hpart⟩

theorem arises_of_mem_replace {part : Part}
    (h : part ∈ (nest.replace polarity replacement).blocks) :
    Arises polarity replacement nest part := by
  induction nest with
  | nil => simp [replace, blocks] at h
  | text content rest ih => exact ih h
  | value name rest ih => exact ih h
  | block other name body rest ihBody ihRest =>
      have hbody : body.blocks ⊆ (block other name body rest).blocks := by
        intro inner hinner
        simp [blocks, hinner]
      have hrest : rest.blocks ⊆ (block other name body rest).blocks := by
        intro inner hinner
        simp [blocks, hinner]
      by_cases hother : other = polarity
      · simp only [replace, hother, if_pos, blocks_append, List.mem_append] at h
        rcases h with h | h
        · exact Or.inl ⟨name, body, by simp [blocks, hother], h⟩
        · exact (ihRest h).mono hrest
      · simp only [replace, hother, if_false, blocks, List.mem_cons, List.mem_append] at h
        rcases h with h | h | h
        · exact Or.inr ⟨other, name, body, hother, by simp [blocks], h⟩
        · exact (ihBody h).mono hbody
        · exact (ihRest h).mono hrest

theorem IsSettled.replace
    (hreplacement : ∀ part ∈ nest.blocks, part.polarity = polarity → part.body.IsSettled →
      (replacement part.name part.body).IsSettled)
    (h : nest.IsSettled) : (nest.replace polarity replacement).IsSettled := by
  induction nest with
  | nil => trivial
  | text content rest ih => exact ⟨h.1, ih hreplacement h.2⟩
  | value name rest ih => exact ih hreplacement h
  | block other name body rest ihBody ihRest =>
      simp only [blocks, List.mem_cons, List.mem_append] at hreplacement
      have hrest := ihRest (fun part hpart => hreplacement part (Or.inr (Or.inr hpart))) h.2
      by_cases hother : other = polarity
      · have hbody := hreplacement _ (Or.inl rfl) hother h.1
        simpa [Nesting.replace, hother] using ⟨hbody, hrest⟩
      · have hbody := ihBody (fun part hpart => hreplacement part (Or.inr (Or.inl hpart))) h.1
        simpa [Nesting.replace, hother, IsSettled] using And.intro hbody hrest

/-- A replacement that stays proper and brings in no name of its own. -/
structure IsConservative (replacement : Text → Nesting → Nesting) : Prop where
  /-- The names in the replacement are those of the block and of the blocks in it. -/
  names : ∀ name body, ∀ part ∈ (replacement name body).blocks,
    part.name = name ∨ ∃ other ∈ body.blocks, other.name = part.name
  /-- The replacement of a proper block is proper. -/
  proper : ∀ name body, (block .positive name body nil).IsProper → (replacement name body).IsProper
  /-- The values in the replacement are asked for in the block. -/
  values : ∀ name body, (replacement name body).valueNames ⊆ body.valueNames

theorem IsConservative.exists_name_eq (hreplacement : IsConservative replacement) {part : Part}
    (h : part ∈ (nest.replace polarity replacement).blocks) :
    ∃ other ∈ nest.blocks, other.name = part.name := by
  rcases arises_of_mem_replace h with ⟨name, body, hmem, hpart⟩ | ⟨other, name, body, -, hmem, rfl⟩
  · rcases hreplacement.names name body part hpart with hname | ⟨inner, hinner, hname⟩
    · exact ⟨_, hmem, hname.symm⟩
    · exact ⟨inner, blocks_subset hmem hinner, hname⟩
  · exact ⟨_, hmem, rfl⟩

theorem IsConservative.isProper_replace (hreplacement : IsConservative replacement)
    (h : nest.IsProper) : (nest.replace polarity replacement).IsProper := by
  induction nest with
  | nil => trivial
  | text content rest ih => exact ih h
  | value name rest ih => exact ⟨h.1, ih h.2⟩
  | block other name body rest ihBody ihRest =>
      obtain ⟨hname, hnames, hbody, hrest⟩ := h
      by_cases hother : other = polarity
      · have hproper := hreplacement.proper name body ⟨hname, hnames, hbody, trivial⟩
        simpa [Nesting.replace, hother] using And.intro hproper (ihRest hrest)
      · simp only [Nesting.replace, hother, if_false]
        -- the sweep went on in the body, but brought no new name in
        refine ⟨hname, ?_, ihBody hbody, ihRest hrest⟩
        intro part hpart
        obtain ⟨inner, hinner, hsame⟩ := hreplacement.exists_name_eq hpart
        exact hsame ▸ hnames inner hinner

theorem IsConservative.valueNames_replace (hreplacement : IsConservative replacement)
    (nest : Nesting) : (nest.replace polarity replacement).valueNames ⊆ nest.valueNames := by
  induction nest with
  | nil => exact List.Subset.refl _
  | text content rest ih => exact ih
  | value name rest ih => exact List.cons_subset_cons _ ih
  | block other name body rest ihBody ihRest =>
      by_cases hother : other = polarity
      · have hbody := hreplacement.values name body
        simpa [Nesting.replace, hother, valueNames] using
          And.intro (List.subset_append_of_subset_left _ hbody)
            (List.subset_append_of_subset_right _ ihRest)
      · simp only [Nesting.replace, hother, if_false, valueNames]
        exact List.append_subset.mpr ⟨List.subset_append_of_subset_left _ ihBody,
          List.subset_append_of_subset_right _ ihRest⟩

theorem IsConservative.bodyNames_replace (hreplacement : IsConservative replacement)
    (nest : Nesting) : (nest.replace polarity replacement).bodyNames ⊆ nest.bodyNames := by
  induction nest with
  | nil => exact List.Subset.refl _
  | text content rest ih => exact ih
  | value name rest ih => exact ih
  | block other name body rest _ ihRest =>
      by_cases hother : other = polarity
      · have hbody := List.Subset.trans (bodyNames_subset _) (hreplacement.values name body)
        simpa [Nesting.replace, hother, bodyNames] using
          And.intro (List.subset_append_of_subset_left _ hbody)
            (List.subset_append_of_subset_right _ ihRest)
      · have hbody : (body.replace polarity replacement).valueNames ⊆ body.valueNames :=
          hreplacement.valueNames_replace body
        simp only [Nesting.replace, hother, if_false, bodyNames]
        exact List.append_subset.mpr ⟨List.subset_append_of_subset_left _ hbody,
          List.subset_append_of_subset_right _ ihRest⟩

end Replace

end Nesting

end Invoicing
