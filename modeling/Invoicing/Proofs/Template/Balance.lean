import Invoicing.Proofs.Template.Reading

/-!
# Clean templates are the well-nested ones

One would check the nesting of blocks with a stack of the blocks that are open.  The analysis has
none: it gives every opening marker the first closing marker of its name that is free, and then
compares the pairs with one another.  It comes to the same (`isClean_analyze_iff_isBalanced`): a
template is clean exactly when its markers are balanced in the stack sense and no block is opened
inside an open block of its name.

## Strategy

Both sides are taken apart along the tree of the template.  A clean template is the written form
of a proper tree, and the markers of such a tree pass the stack.  In the other direction, the stack
is back at its height before a block when it meets the first closing marker of the block's name,
because no block of that name lies inside (`split_of_isBalanced`).  So the body of the block is
balanced by itself, and so is what follows.
-/

namespace Invoicing.Template

open Nesting

/-- Every closing marker closes the innermost open block, and no block stays open.  The names of
the open blocks are on a stack, the innermost first. -/
def isBalanced : List Text → List Marker → Bool
  | opened, [] => opened.isEmpty
  | opened, ⟨.plain, _⟩ :: rest => isBalanced opened rest
  | opened, ⟨.hash, name⟩ :: rest => isBalanced (name :: opened) rest
  | opened, ⟨.caret, name⟩ :: rest => isBalanced (name :: opened) rest
  | [], ⟨.slash, _⟩ :: _ => false
  | innermost :: opened, ⟨.slash, name⟩ :: rest => name == innermost && isBalanced opened rest

/-- No block is opened inside an open block of its name, whatever their signs. -/
def opensApart : List Text → List Marker → Bool
  | _, [] => true
  | opened, ⟨.plain, _⟩ :: rest => opensApart opened rest
  | opened, ⟨.hash, name⟩ :: rest => !opened.contains name && opensApart (name :: opened) rest
  | opened, ⟨.caret, name⟩ :: rest => !opened.contains name && opensApart (name :: opened) rest
  | opened, ⟨.slash, _⟩ :: rest => opensApart opened.tail rest

section Stack

variable {opened outer : List Text} {name : Text} {body after rest : List Marker}

@[simp] theorem isBalanced_open (polarity : Polarity) :
    isBalanced opened (⟨polarity.sigil, name⟩ :: rest) = isBalanced (name :: opened) rest := by
  cases polarity <;> simp [Polarity.sigil, isBalanced]

@[simp] theorem opensApart_open (polarity : Polarity) :
    opensApart opened (⟨polarity.sigil, name⟩ :: rest) =
      (!opened.contains name && opensApart (name :: opened) rest) := by
  cases polarity <;> simp [Polarity.sigil, opensApart]

@[simp] theorem isBalanced_plain :
    isBalanced opened (⟨.plain, name⟩ :: rest) = isBalanced opened rest := by
  simp [isBalanced]

@[simp] theorem opensApart_plain :
    opensApart opened (⟨.plain, name⟩ :: rest) = opensApart opened rest := by
  simp [opensApart]

/-! ## The markers of a tree pass the stack -/

theorem isBalanced_markers_append (nest : Nesting) :
    isBalanced opened (nest.markers ++ rest) = isBalanced opened rest := by
  induction nest generalizing opened rest with
  | nil => rfl
  | text content next ih => exact ih
  | value name next ih =>
      rw [markers, List.cons_append, isBalanced_plain]
      exact ih
  | block polarity name body next ihBody ihNext =>
      rw [markers, List.cons_append, isBalanced_open, List.append_assoc, ihBody, List.cons_append]
      simp [isBalanced, ihNext]

theorem opensApart_markers_append {nest : Nesting} (hproper : nest.IsProper)
    (hnames : ∀ part ∈ nest.blocks, part.name ∉ opened) :
    opensApart opened (nest.markers ++ rest) = opensApart opened rest := by
  induction nest generalizing opened rest with
  | nil => rfl
  | text content next ih => exact ih hproper hnames
  | value name next ih =>
      rw [markers, List.cons_append, opensApart_plain]
      exact ih hproper.2 hnames
  | block polarity name body next ihBody ihNext =>
      obtain ⟨-, hinner, hbody, hnext⟩ := hproper
      simp only [blocks, List.mem_cons, List.mem_append] at hnames
      have hname : name ∉ opened := hnames ⟨polarity, name, body⟩ (Or.inl rfl)
      have hbodyNames : ∀ part ∈ body.blocks, part.name ∉ name :: opened := by
        intro part hpart hmem
        rcases List.mem_cons.mp hmem with hsame | hmem
        · exact hinner part hpart hsame
        · exact hnames part (Or.inr (Or.inl hpart)) hmem
      have hnextNames : ∀ part ∈ next.blocks, part.name ∉ opened := by
        intro part hpart
        exact hnames part (Or.inr (Or.inr hpart))
      rw [markers, List.cons_append, opensApart_open, List.append_assoc, ihBody hbody hbodyNames,
        List.cons_append]
      simp [opensApart, hname, ihNext hnext hnextNames]

/-! ## The stack at the closing marker of a block -/

/-- A block whose closing marker never comes stays on the stack. -/
theorem not_isBalanced_of_notMem (hclosing : ⟨.slash, name⟩ ∉ rest) :
    ¬ isBalanced (opened ++ name :: outer) rest := by
  induction rest generalizing opened with
  | nil => simp [isBalanced]
  | cons marker rest ih =>
      simp only [List.mem_cons, not_or] at hclosing
      obtain ⟨hne, hrest⟩ := hclosing
      obtain ⟨sigil, other⟩ := marker
      cases sigil with
      | plain => simpa [isBalanced] using ih hrest
      | hash => simpa [isBalanced] using @ih (other :: opened) hrest
      | caret => simpa [isBalanced] using @ih (other :: opened) hrest
      | slash =>
          have hother : other ≠ name := fun hsame => hne (by rw [hsame])
          cases opened with
          | nil => simp [isBalanced, hother]
          | cons innermost opened =>
              intro hbalanced
              simp only [List.cons_append, isBalanced, Bool.and_eq_true] at hbalanced
              exact ih hrest hbalanced.2

/-- The first closing marker of a name finds the stack as the block of that name has left it. -/
theorem split_of_isBalanced (hname : name ∉ opened) (hclosing : ⟨.slash, name⟩ ∉ body)
    (hbalanced : isBalanced (opened ++ name :: outer) (body ++ ⟨.slash, name⟩ :: after))
    (hapart : opensApart (opened ++ name :: outer) (body ++ ⟨.slash, name⟩ :: after)) :
    (isBalanced opened body ∧ opensApart opened body) ∧
      isBalanced outer after ∧ opensApart outer after := by
  induction body generalizing opened with
  | nil =>
      cases opened with
      | nil => simp_all [isBalanced, opensApart]
      | cons innermost opened =>
          -- the closing marker would not fit the innermost block
          have hne : name ≠ innermost := fun hsame => hname (hsame ▸ List.mem_cons_self ..)
          simp [isBalanced, hne] at hbalanced
  | cons marker body ih =>
      simp only [List.mem_cons, not_or] at hclosing
      obtain ⟨hne, hbody⟩ := hclosing
      obtain ⟨sigil, other⟩ := marker
      have hopens : ∀ polarity : Polarity, polarity.sigil = sigil →
          (isBalanced opened (⟨sigil, other⟩ :: body) ∧
            opensApart opened (⟨sigil, other⟩ :: body)) ∧
              isBalanced outer after ∧ opensApart outer after := by
        rintro polarity rfl
        simp only [List.cons_append, isBalanced_open, opensApart_open, Bool.and_eq_true] at *
        obtain ⟨hother, hapart⟩ := hapart
        have hnotMem : other ∉ opened ++ name :: outer := by simpa using hother
        simp only [List.mem_append, List.mem_cons, not_or] at hnotMem
        obtain ⟨hopened, hsame, -⟩ := hnotMem
        have hstack : name ∉ other :: opened := by
          simp only [List.mem_cons, not_or]
          exact ⟨Ne.symm hsame, hname⟩
        obtain ⟨⟨hfirst, hsecond⟩, hafter⟩ := ih hstack hbody hbalanced hapart
        exact ⟨⟨hfirst, by simpa using hopened, hsecond⟩, hafter⟩
      cases sigil with
      | plain =>
          simp only [List.cons_append, isBalanced_plain, opensApart_plain] at *
          exact ih hname hbody hbalanced hapart
      | hash => exact hopens .positive rfl
      | caret => exact hopens .negative rfl
      | slash =>
          have hother : other ≠ name := fun hsame => hne (by rw [hsame])
          cases opened with
          | nil => simp [isBalanced, hother] at hbalanced
          | cons innermost opened =>
              simp only [List.cons_append, isBalanced, opensApart, List.tail_cons,
                Bool.and_eq_true] at *
              obtain ⟨hinnermost, hbalanced⟩ := hbalanced
              obtain ⟨⟨hfirst, hsecond⟩, hafter⟩ :=
                ih (List.not_mem_of_not_mem_cons hname) hbody hbalanced hapart
              exact ⟨⟨⟨hinnermost, hfirst⟩, hsecond⟩, hafter⟩

end Stack

/-! ## Clean templates -/

section Clean

variable {offset : Nat} {parts : List Token}

/-- The tree of a clean template has all its markers. -/
theorem markers_ofTokens (hclean : (pairUp (placeMarkers offset parts)).IsClean) :
    (ofTokens parts).markers = parts.filterMap Token.marker? := by
  fun_induction ofTokens parts generalizing offset with
  | case1 => rfl
  | case2 content rest ih => exact ih hclean
  | case3 marker rest polarity body after hsplit hpolarity ihBody ihAfter =>
      obtain ⟨start, stop, hblock⟩ := isClean_block offset hpolarity hsplit
      obtain ⟨hcleanBody, hcleanAfter⟩ := hblock.mp hclean
      rw [markers, ihBody hcleanBody, ihAfter hcleanAfter, (eq_of_splitAtClosing? hsplit).1,
        Polarity.ofSigil?_eq_some_iff.mp hpolarity]
      simp [Token.marker?]
  | case4 marker rest hplain _ ih =>
      rw [pairUp_placeMarkers_value _ _ hplain] at hclean
      rw [markers, ih hclean, ← hplain]
      rfl
  | case5 marker rest hplain hunpaired ih =>
      exact absurd hclean (not_isClean_unpaired hplain hunpaired)

theorem isClean_of_isBalanced (hbalanced : isBalanced [] (parts.filterMap Token.marker?))
    (hapart : opensApart [] (parts.filterMap Token.marker?)) :
    (pairUp (placeMarkers offset parts)).IsClean := by
  fun_induction ofTokens parts generalizing offset with
  | case1 =>
      rw [placeMarkers, pairUp_nil]
      exact ⟨rfl, rfl, List.Pairwise.nil⟩
  | case2 content rest ih => exact ih hbalanced hapart
  | case3 marker rest polarity body after hsplit hpolarity ihBody ihAfter =>
      obtain ⟨start, stop, hblock⟩ := isClean_block offset hpolarity hsplit
      obtain ⟨hrest, hclosing⟩ := eq_of_splitAtClosing? hsplit
      obtain ⟨sigil, name⟩ := marker
      obtain rfl : polarity.sigil = sigil := Polarity.ofSigil?_eq_some_iff.mp hpolarity
      have hbody : ⟨.slash, name⟩ ∉ body.filterMap Token.marker? := by
        rwa [mem_filterMap_marker?]
      rw [hrest] at hbalanced hapart
      simp only [List.filterMap_cons, List.filterMap_append, Token.marker?, isBalanced_open,
        opensApart_open, Bool.and_eq_true] at hbalanced hapart
      obtain ⟨⟨hbalancedBody, hapartBody⟩, hbalancedAfter, hapartAfter⟩ :=
        @split_of_isBalanced [] [] name _ _ List.not_mem_nil hbody hbalanced hapart.2
      exact hblock.mpr ⟨ihBody hbalancedBody hapartBody, ihAfter hbalancedAfter hapartAfter⟩
  | case4 marker rest hplain _ ih =>
      obtain ⟨sigil, name⟩ := marker
      subst hplain
      rw [pairUp_placeMarkers_value _ _ rfl]
      simp only [List.filterMap_cons, Token.marker?, isBalanced_plain, opensApart_plain]
        at hbalanced hapart
      exact ih hbalanced hapart
  | case5 marker rest hplain hunpaired ih =>
      obtain ⟨sigil, name⟩ := marker
      rcases eq_slash_or_splitAtClosing?_eq_none hplain hunpaired with
        hslash | ⟨polarity, hopening, hsplit⟩
      · simp only at hslash
        simp [Token.marker?, hslash, isBalanced] at hbalanced
      · simp only at hopening
        have hclosing : ⟨.slash, name⟩ ∉ rest.filterMap Token.marker? := by
          rw [mem_filterMap_marker?]
          exact notMem_of_splitAtClosing? hsplit
        simp only [List.filterMap_cons, Token.marker?, ← hopening, isBalanced_open] at hbalanced
        exact absurd hbalanced (@not_isBalanced_of_notMem [] [] name _ hclosing)

end Clean

/-- **A template is clean exactly when its blocks are well nested.**  Its block markers are
balanced, and no block lies inside another one of its name. -/
theorem isClean_analyze_iff_isBalanced {source : Text} :
    (analyze source).isClean ↔
      isBalanced [] (markersOf source) ∧ opensApart [] (markersOf source) := by
  rw [isClean_analyze_iff]
  constructor
  · intro hclean
    have hmarkers : (ofText source).markers = markersOf source := markers_ofTokens hclean
    have hproper : (ofText source).IsProper :=
      isProper_ofTokens (fun _ => isName_of_mem_tokens) hclean
    have hbalanced := @isBalanced_markers_append [] [] (ofText source)
    have hapart := @opensApart_markers_append [] [] _ hproper fun _ _ => List.not_mem_nil
    rw [List.append_nil, hmarkers] at hbalanced hapart
    rw [hbalanced, hapart]
    exact ⟨rfl, rfl⟩
  · rintro ⟨hbalanced, hapart⟩
    exact isClean_of_isBalanced hbalanced hapart

end Invoicing.Template
