import Invoicing.Proofs.Template.Replacing
import Invoicing.Template.Passes

/-!
# Rendering a well-nested template

Each pass of the renderer has its counterpart on the tree of a template: `Nesting` in,
`Nesting` out.  `Nesting.renderText_source` says that rendering the written form of a
settled and proper template is writing down what the passes make of its tree, and
`Nesting.renderText_source_append` says that it stays so whatever text follows.

Two things have to be watched.  A value may hold anything, so a pass that comes after
values have been put in only agrees with the tree when those values are settled; within one
rendering that concerns the values in the bodies of repeated blocks, which the last pass
reads again.  And a pass must leave a template proper, which it does because it only
takes blocks apart or away (`Nesting.IsConservative`).
-/

namespace Invoicing

namespace Nesting

/-! ## The passes on the tree -/

/-- What becomes of a `#` block in the section pass: it stays when it is to be repeated. -/
def keepOrDrop (scope : Scope) (name : Text) (body : Nesting) : Nesting :=
  match scope.lookup? name with
  | some (.sequence _) => block .positive name body nil
  | some (.scalar held) => if held.isTruthy then body else nil
  | none => nil

/-- What becomes of a `^` block in the section pass. -/
def keepUnlessTruthy (scope : Scope) (name : Text) (body : Nesting) : Nesting :=
  if scope.isTruthy name then nil else body

/-- The section pass. -/
def resolveSections (scope : Scope) (nest : Nesting) : Nesting :=
  (nest.replace .positive (keepOrDrop scope)).replace .negative (keepUnlessTruthy scope)

/-- The value pass. -/
def fillValues (scope : Scope) : Nesting → Nesting
  | nil => nil
  | text content rest => text content (rest.fillValues scope)
  | value name rest => text (scope.toText name) (rest.fillValues scope)
  | block polarity name body rest =>
      block polarity name (body.fillValues scope) (rest.fillValues scope)

/-- A body, resolved and filled once for each element. -/
def repeatEach (scope : Scope) (body : Nesting) : List Context → Nesting
  | [] => nil
  | item :: items =>
      (body.resolveSections (scope.push item)).fillValues (scope.push item) ++
        repeatEach scope body items

/-- What becomes of a `#` block in the loop pass. -/
def repeatBody (scope : Scope) (name : Text) (body : Nesting) : Nesting :=
  match scope.lookup? name with
  | some (.sequence items) => repeatEach scope body items
  | _ => nil

/-- The loop pass. -/
def expandLoops (scope : Scope) (nest : Nesting) : Nesting :=
  nest.replace .positive (repeatBody scope)

/-- The section pass and the loop pass. -/
def expand (scope : Scope) (nest : Nesting) : Nesting :=
  (nest.resolveSections scope).expandLoops scope

section Passes

variable {scope : Scope} {nest : Nesting}

/-! ## The passes over parts beside one another -/

@[simp] theorem resolveSections_append (second : Nesting) :
    (nest ++ second).resolveSections scope =
      nest.resolveSections scope ++ second.resolveSections scope := by
  simp [resolveSections]

@[simp] theorem expand_append (second : Nesting) :
    (nest ++ second).expand scope = nest.expand scope ++ second.expand scope := by
  simp [expand, expandLoops]

@[simp] theorem fillValues_append (second : Nesting) :
    (nest ++ second).fillValues scope = nest.fillValues scope ++ second.fillValues scope := by
  induction nest with
  | nil => rfl
  | text content rest ih => simp [fillValues, ih]
  | value name rest ih => simp [fillValues, ih]
  | block polarity name body rest _ ih => simp [fillValues, ih]

/-- The section pass changes nothing where no block stands. -/
theorem resolveSections_eq_self (h : nest.blocks = []) : nest.resolveSections scope = nest := by
  have hnone : ∀ polarity, ∀ part ∈ nest.blocks, part.polarity ≠ polarity := by simp [h]
  rw [resolveSections, replace_eq_self (hnone .positive), replace_eq_self (hnone .negative)]

theorem expand_eq_self (h : nest.blocks = []) : nest.expand scope = nest := by
  rw [expand, resolveSections_eq_self h]
  exact replace_eq_self (by simp [h])

/-- The value pass changes nothing where no value is asked for. -/
theorem fillValues_eq_self (h : nest.valueNames = []) : nest.fillValues scope = nest := by
  induction nest with
  | nil => rfl
  | text content rest ih => simp [fillValues, ih h]
  | value name rest ih => simp [valueNames] at h
  | block polarity name body rest ihBody ihRest =>
      simp only [valueNames, List.append_eq_nil_iff] at h
      simp [fillValues, ihBody h.1, ihRest h.2]

/-! ## The passes over a block without blocks in it -/

/-- A `#` block whose name is bound to no sequence is kept or dropped for good. -/
theorem keepOrDrop_eq_ite {name : Text} {body : Nesting}
    (h : ∀ items, scope.lookup? name ≠ some (.sequence items)) :
    keepOrDrop scope name body = if scope.isTruthy name then body else nil := by
  unfold keepOrDrop Scope.isTruthy
  cases hlookup : scope.lookup? name with
  | none => simp
  | some binding =>
      cases binding with
      | scalar held => rfl
      | sequence items => exact absurd hlookup (h items)

theorem expand_negative {name : Text} {body : Nesting} (hbody : body.blocks = []) :
    (block .negative name body nil).expand scope = keepUnlessTruthy scope name body := by
  have hpositive : (block .negative name body nil).replace .positive (keepOrDrop scope) =
      block .negative name body nil :=
    replace_eq_self (by simp [blocks, hbody])
  have hblocks : (keepUnlessTruthy scope name body).blocks = [] := by
    unfold keepUnlessTruthy
    split
    · rfl
    · exact hbody
  rw [expand, resolveSections, hpositive]
  simp only [replace, if_pos, append_nil]
  exact replace_eq_self (by simp [hblocks])

theorem expand_positive {name : Text} {body : Nesting} (hbody : body.blocks = []) :
    (block .positive name body nil).expand scope =
      match scope.lookup? name with
      | some (.sequence items) => repeatEach scope body items
      | some (.scalar held) => if held.isTruthy then body else nil
      | none => nil := by
  -- whatever the first sweep has left, it holds no `^` block
  have hnegative : (keepOrDrop scope name body).replace .negative (keepUnlessTruthy scope) =
      keepOrDrop scope name body := by
    refine replace_eq_self fun part hpart => ?_
    unfold keepOrDrop at hpart
    split at hpart
    · obtain rfl : part = ⟨.positive, name, body⟩ := by simpa [blocks, hbody] using hpart
      exact Polarity.noConfusion
    · split at hpart <;> simp [blocks, hbody] at hpart
    · simp [blocks] at hpart
  have hkept : (block .positive name body nil).resolveSections scope =
      keepOrDrop scope name body := by
    simpa [resolveSections, replace] using hnegative
  rw [expand, hkept, expandLoops]
  unfold keepOrDrop
  cases hlookup : scope.lookup? name with
  | none => rfl
  | some binding =>
      cases binding with
      | sequence items => simp [replace, repeatBody, hlookup]
      | scalar held =>
          by_cases hheld : held.isTruthy
          · simpa [hheld] using replace_eq_self (by simp [hbody])
          · simp [hheld, replace]

/-! ## The passes keep a template proper -/

theorem isConservative_keepOrDrop : IsConservative (keepOrDrop scope) where
  names name body part hpart := by
    unfold keepOrDrop at hpart
    split at hpart
    · simp only [blocks, List.append_nil, List.mem_cons] at hpart
      rcases hpart with rfl | hpart
      · exact Or.inl rfl
      · exact Or.inr ⟨part, hpart, rfl⟩
    · split at hpart
      · exact Or.inr ⟨part, hpart, rfl⟩
      · simp [blocks] at hpart
    · simp [blocks] at hpart
  proper name body h := by
    unfold keepOrDrop
    split
    · exact h
    · split
      · exact h.2.2.1
      · trivial
    · trivial
  values name body := by
    unfold keepOrDrop
    split
    · simp [valueNames]
    · split <;> simp [valueNames]
    · simp [valueNames]

theorem isConservative_keepUnlessTruthy : IsConservative (keepUnlessTruthy scope) where
  names name body part hpart := by
    unfold keepUnlessTruthy at hpart
    split at hpart
    · simp [blocks] at hpart
    · exact Or.inr ⟨part, hpart, rfl⟩
  proper name body h := by
    unfold keepUnlessTruthy
    split
    · trivial
    · exact h.2.2.1
  values name body := by
    unfold keepUnlessTruthy
    split <;> simp [valueNames]

theorem isProper_resolveSections (h : nest.IsProper) : (nest.resolveSections scope).IsProper :=
  isConservative_keepUnlessTruthy.isProper_replace (isConservative_keepOrDrop.isProper_replace h)

theorem exists_name_eq_of_mem_resolveSections {part : Part}
    (h : part ∈ (nest.resolveSections scope).blocks) :
    ∃ other ∈ nest.blocks, other.name = part.name := by
  obtain ⟨kept, hkept, hname⟩ := isConservative_keepUnlessTruthy.exists_name_eq h
  obtain ⟨other, hother, hsame⟩ := isConservative_keepOrDrop.exists_name_eq hkept
  exact ⟨other, hother, hsame.trans hname⟩

/-- Filling the values keeps the blocks and fills their bodies. -/
@[simp] theorem blocks_fillValues :
    (nest.fillValues scope).blocks =
      nest.blocks.map fun part => { part with body := part.body.fillValues scope } := by
  induction nest with
  | nil => rfl
  | text content rest ih => exact ih
  | value name rest ih => exact ih
  | block polarity name body rest ihBody ihRest => simp [fillValues, blocks, ihBody, ihRest]

theorem isProper_fillValues (h : nest.IsProper) : (nest.fillValues scope).IsProper := by
  induction nest with
  | nil => trivial
  | text content rest ih => exact ih h
  | value name rest ih => exact ih h.2
  | block polarity name body rest ihBody ihRest =>
      obtain ⟨hname, hnames, hbody, hrest⟩ := h
      refine ⟨hname, ?_, ihBody hbody, ihRest hrest⟩
      intro part hpart
      rw [blocks_fillValues] at hpart
      obtain ⟨other, hother, rfl⟩ := List.mem_map.mp hpart
      exact hnames other hother

/-- No value is asked for when all are filled in. -/
@[simp] theorem valueNames_fillValues : (nest.fillValues scope).valueNames = [] := by
  induction nest with
  | nil => rfl
  | text content rest ih => exact ih
  | value name rest ih => exact ih
  | block polarity name body rest ihBody ihRest => simp [fillValues, valueNames, ihBody, ihRest]

@[simp] theorem valueNames_repeatEach {body : Nesting} {items : List Context} :
    (repeatEach scope body items).valueNames = [] := by
  induction items with
  | nil => rfl
  | cons item items ih => simp [repeatEach, ih]

/-- Every block of the repeated bodies comes from one element. -/
theorem mem_blocks_repeatEach {body : Nesting} {items : List Context} {part : Part} :
    part ∈ (repeatEach scope body items).blocks ↔ ∃ item ∈ items,
      part ∈ ((body.resolveSections (scope.push item)).fillValues (scope.push item)).blocks := by
  induction items with
  | nil => simp [repeatEach, blocks]
  | cons item items ih => simp [repeatEach, ih]

theorem isProper_repeatEach {body : Nesting} {items : List Context} (h : body.IsProper) :
    (repeatEach scope body items).IsProper := by
  induction items with
  | nil => trivial
  | cons item items ih =>
      exact isProper_append.mpr ⟨isProper_fillValues (isProper_resolveSections h), ih⟩

theorem isConservative_repeatBody : IsConservative (repeatBody scope) where
  names name body part hpart := by
    unfold repeatBody at hpart
    split at hpart
    · next items _ =>
        obtain ⟨item, -, hitem⟩ := mem_blocks_repeatEach.mp hpart
        rw [blocks_fillValues] at hitem
        obtain ⟨kept, hkept, rfl⟩ := List.mem_map.mp hitem
        obtain ⟨other, hother, hsame⟩ := exists_name_eq_of_mem_resolveSections hkept
        exact Or.inr ⟨other, hother, hsame⟩
    · simp [blocks] at hpart
  proper name body h := by
    unfold repeatBody
    split
    · exact isProper_repeatEach h.2.2.1
    · trivial
  values name body := by
    unfold repeatBody
    split <;> simp [valueNames]

theorem isProper_expand (h : nest.IsProper) : (nest.expand scope).IsProper :=
  isConservative_repeatBody.isProper_replace (isProper_resolveSections h)

/-! ## The passes keep a template settled -/

theorem isSettled_keepOrDrop {name : Text} {body : Nesting} (h : body.IsSettled) :
    (keepOrDrop scope name body).IsSettled := by
  unfold keepOrDrop
  split
  · exact ⟨h, trivial⟩
  · split
    · exact h
    · trivial
  · trivial

theorem isSettled_keepUnlessTruthy {name : Text} {body : Nesting} (h : body.IsSettled) :
    (keepUnlessTruthy scope name body).IsSettled := by
  unfold keepUnlessTruthy
  split
  · trivial
  · exact h

theorem isSettled_resolveSections (h : nest.IsSettled) : (nest.resolveSections scope).IsSettled :=
  .replace (fun _ _ _ => isSettled_keepUnlessTruthy)
    (.replace (fun _ _ _ => isSettled_keepOrDrop) h)

/-- Filling in values keeps a template settled when the values are. -/
theorem isSettled_fillValues (h : nest.IsSettled)
    (hvalue : ∀ name ∈ nest.valueNames, (scope.toText name).IsSettled) :
    (nest.fillValues scope).IsSettled := by
  induction nest with
  | nil => trivial
  | text content rest ih => exact ⟨h.1, ih h.2 hvalue⟩
  | value name rest ih =>
      exact ⟨hvalue name (List.mem_cons_self ..), ih h fun other hother =>
        hvalue other (List.mem_cons_of_mem _ hother)⟩
  | block polarity name body rest ihBody ihRest =>
      simp only [valueNames, List.mem_append] at hvalue
      exact ⟨ihBody h.1 fun other hother => hvalue other (Or.inl hother),
        ihRest h.2 fun other hother => hvalue other (Or.inr hother)⟩

theorem valueNames_resolveSections : (nest.resolveSections scope).valueNames ⊆ nest.valueNames :=
  List.Subset.trans (isConservative_keepUnlessTruthy.valueNames_replace _)
    (isConservative_keepOrDrop.valueNames_replace _)

theorem bodyNames_resolveSections : (nest.resolveSections scope).bodyNames ⊆ nest.bodyNames :=
  List.Subset.trans (isConservative_keepUnlessTruthy.bodyNames_replace _)
    (isConservative_keepOrDrop.bodyNames_replace _)

theorem isSettled_repeatEach {body : Nesting} {items : List Context} (h : body.IsSettled)
    (hvalue : ∀ item ∈ items, ∀ name ∈ body.valueNames,
      ((scope.push item).toText name).IsSettled) :
    (repeatEach scope body items).IsSettled := by
  induction items with
  | nil => trivial
  | cons item items ih =>
      have hitem : ((body.resolveSections (scope.push item)).fillValues
          (scope.push item)).IsSettled := by
        refine isSettled_fillValues (isSettled_resolveSections h) fun name hname => ?_
        exact hvalue item (List.mem_cons_self ..) name (valueNames_resolveSections hname)
      refine isSettled_append.mpr ⟨hitem, ih fun next hnext => ?_⟩
      exact hvalue next (List.mem_cons_of_mem _ hnext)

/-- What the loop pass writes is settled when the elements of the sequences bring in settled
values. -/
theorem isSettled_expand (h : nest.IsSettled)
    (hvalue : ∀ name items item, scope.lookup? name = some (.sequence items) → item ∈ items →
      ∀ other ∈ nest.bodyNames, ((scope.push item).toText other).IsSettled) :
    (nest.expand scope).IsSettled := by
  -- only repeated bodies bring text in, and they ask for the values of `bodyNames` at most
  refine .replace (fun part hpart _ hbody => ?_) (isSettled_resolveSections h)
  unfold repeatBody
  split
  · next items hlookup =>
      refine isSettled_repeatEach hbody fun item hitem other hother => ?_
      exact hvalue _ items item hlookup hitem other
        (bodyNames_resolveSections (valueNames_subset hpart hother))
  · trivial

/-! ## The passes on the written form -/

theorem keepOrDrop_source (name : Text) (body : Nesting) :
    Template.keepOrDrop scope ⟨name, body.source⟩ = (keepOrDrop scope name body).source := by
  unfold Template.keepOrDrop keepOrDrop
  cases scope.lookup? name with
  | none => rfl
  | some binding =>
      cases binding with
      | scalar held => cases hheld : held.isTruthy <;> simp [hheld, source]
      | sequence items => simp [source, Polarity.sigil]

theorem keepUnlessTruthy_source (name : Text) (body : Nesting) :
    (if scope.isTruthy name then [] else body.source) =
      (keepUnlessTruthy scope name body).source := by
  unfold keepUnlessTruthy
  split <;> rfl

/-- The section pass over a template, whatever text comes after it. -/
theorem resolveSections_source_append (hsettled : nest.IsSettled) (hproper : nest.IsProper)
    (rest : Text) :
    Template.resolveSections scope (nest.source ++ rest) =
      (nest.resolveSections scope).source ++ Template.resolveSections scope rest := by
  have hpositive : replaceBlocks .hash (Template.keepOrDrop scope) (nest.source ++ rest) =
      (nest.replace .positive (keepOrDrop scope)).source ++
        replaceBlocks .hash (Template.keepOrDrop scope) rest :=
    replaceBlocks_source_append .positive (fun name body _ _ => keepOrDrop_source name body)
      hsettled hproper rest
  rw [Template.resolveSections, hpositive]
  exact replaceBlocks_source_append .negative
    (fun name body _ _ => keepUnlessTruthy_source name body)
    (.replace (fun _ _ _ => isSettled_keepOrDrop) hsettled)
    (isConservative_keepOrDrop.isProper_replace hproper) _

theorem resolveSections_source (hsettled : nest.IsSettled) (hproper : nest.IsProper) :
    Template.resolveSections scope nest.source = (nest.resolveSections scope).source := by
  simpa [Template.resolveSections] using
    @resolveSections_source_append scope _ hsettled hproper []

theorem fillValues_source_append (hsettled : nest.IsSettled) (hproper : nest.IsProper)
    (rest : Text) :
    Template.fillValues scope (nest.source ++ rest) =
      (nest.fillValues scope).source ++ Template.fillValues scope rest := by
  unfold Template.fillValues
  induction nest generalizing rest with
  | nil => rfl
  | text content next ih =>
      simp only [source, fillValues, List.append_assoc]
      rw [replaceValues_append_of_isSettledBefore _ (hsettled.1.before _), ih hsettled.2 hproper]
  | value name next ih =>
      simp only [source, fillValues, List.append_assoc]
      rw [replaceValues_text_append _ (by exact hproper.1), ih hsettled hproper.2]
      rfl
  | block polarity name body next ihBody ihNext =>
      obtain ⟨hname, -, hbody, hnext⟩ := hproper
      simp only [source, fillValues, Block.text, Block.closingText, List.append_assoc]
      rw [replaceValues_text_append _ (by exact hname), if_neg polarity.sigil_ne_plain,
        ihBody hsettled.1 hbody, replaceValues_text_append _ (by exact hname),
        if_neg Sigil.noConfusion,
        ihNext hsettled.2 hnext]

theorem fillValues_source (hsettled : nest.IsSettled) (hproper : nest.IsProper) :
    Template.fillValues scope nest.source = (nest.fillValues scope).source := by
  simpa [Template.fillValues] using @fillValues_source_append scope _ hsettled hproper []

theorem source_repeatEach (body : Nesting) (items : List Context) :
    (repeatEach scope body items).source = items.flatMap fun item =>
      ((body.resolveSections (scope.push item)).fillValues (scope.push item)).source := by
  induction items with
  | nil => rfl
  | cons item items ih => simp [repeatEach, ih]

theorem repeatBody_source {name : Text} {body : Nesting} (hsettled : body.IsSettled)
    (hproper : body.IsProper) :
    Template.repeatBody scope ⟨name, body.source⟩ = (repeatBody scope name body).source := by
  have heach : ∀ items : List Context,
      (items.flatMap fun item => Template.fillValues (scope.push item)
        (Template.resolveSections (scope.push item) body.source)) =
      (repeatEach scope body items).source := by
    intro items
    rw [source_repeatEach]
    refine List.flatMap_congr fun item _ => ?_
    rw [resolveSections_source hsettled hproper,
      fillValues_source (isSettled_resolveSections hsettled) (isProper_resolveSections hproper)]
  unfold Template.repeatBody repeatBody
  cases scope.lookup? name with
  | none => rfl
  | some binding =>
      cases binding with
      | scalar held => rfl
      | sequence items => exact heach items

theorem expandLoops_source_append (hsettled : nest.IsSettled) (hproper : nest.IsProper)
    (rest : Text) :
    Template.expandLoops scope (nest.source ++ rest) =
      (nest.expandLoops scope).source ++ Template.expandLoops scope rest :=
  replaceBlocks_source_append .positive (fun _ _ => repeatBody_source) hsettled hproper rest

/-- **Rendering a well-nested template**, whatever text comes after it.  The values of repeated
blocks are read again by the last pass, so what the loop pass writes has to be settled. -/
theorem renderText_source_append {context : Context} (hsettled : nest.IsSettled)
    (hproper : nest.IsProper) (hexpand : (nest.expand (.ofContext context)).IsSettled)
    (rest : Text) :
    Template.renderText (nest.source ++ rest) context =
      ((nest.expand (.ofContext context)).fillValues (.ofContext context)).source ++
        Template.renderText rest context := by
  rw [Template.renderText, resolveSections_source_append hsettled hproper,
    expandLoops_source_append (isSettled_resolveSections hsettled)
      (isProper_resolveSections hproper)]
  exact fillValues_source_append hexpand (isProper_expand hproper) _

theorem renderText_source {context : Context} (hsettled : nest.IsSettled) (hproper : nest.IsProper)
    (hexpand : (nest.expand (.ofContext context)).IsSettled) :
    Template.renderText nest.source context =
      ((nest.expand (.ofContext context)).fillValues (.ofContext context)).source := by
  simpa [Template.renderText, Template.resolveSections, Template.expandLoops, Template.fillValues]
    using renderText_source_append hsettled hproper hexpand []

end Passes

end Nesting

end Invoicing
