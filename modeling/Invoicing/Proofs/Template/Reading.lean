import Invoicing.Proofs.Marker.Places
import Invoicing.Proofs.Template.Nesting
import Invoicing.Proofs.Template.Pairing

/-!
# The tree of a template

`Nesting.ofTokens` reads the tokens of a template as a tree, taking for every opening
marker the first closing marker of its name, as the renderer does.  Nothing is lost
(`source_ofTokens`), whatever the template is.

In a clean template no pair of markers reaches out of the body of a block, so a body is
clean again, and so is what follows the block (`isClean_block`).  By induction the tree of
a clean template is proper (`isProper_ofTokens`): each of its blocks is one of the blocks
that the analysis has paired.
-/

namespace Invoicing

open Template

/-! ## The places of markers -/

section Places

variable {offset : Nat} {placed : PlacedMarker} {parts : List Token}

theorem placeMarkers_append (offset : Nat) (first second : List Token) :
    placeMarkers offset (first ++ second) = placeMarkers offset first ++
      placeMarkers (offset + Text.utf8Size (first.flatMap Token.text)) second := by
  induction first generalizing offset with
  | nil => simp [placeMarkers]
  | cons token rest ih =>
      cases token <;> simp [placeMarkers, ih, Token.text, Nat.add_assoc]

theorem map_marker_placeMarkers (offset : Nat) (parts : List Token) :
    (placeMarkers offset parts).map (·.marker) = parts.filterMap Token.marker? := by
  induction parts generalizing offset with
  | nil => rfl
  | cons token rest ih =>
      cases token with
      | literal content => exact ih _
      | mark marker => simp [placeMarkers, Token.marker?, ih]

/-- The places of the markers of a text that is cut at a marker. -/
theorem placeMarkers_tokens_append_text (offset : Nat) (before : Text) {marker : Marker}
    (hname : Marker.IsName marker.name) (rest : Text) :
    placeMarkers offset (tokens (before ++ (marker.text ++ rest))) =
      placeMarkers offset (tokens before) ++
        ⟨marker, ⟨offset + Text.utf8Size before,
          offset + Text.utf8Size before + Text.utf8Size marker.text⟩⟩ ::
        placeMarkers (offset + Text.utf8Size before + Text.utf8Size marker.text) (tokens rest) := by
  rw [tokens_append_text before hname, placeMarkers_append, flatMap_text_tokens]
  rfl

/-- A placed marker is one of the tokens, and its span counts the tokens before it. -/
theorem exists_of_mem_placeMarkers (h : placed ∈ placeMarkers offset parts) :
    ∃ before after, parts = before ++ .mark placed.marker :: after ∧
      placed.span.start = offset + Text.utf8Size (before.flatMap Token.text) := by
  induction parts generalizing offset with
  | nil => simp [placeMarkers] at h
  | cons token rest ih =>
      cases token with
      | literal content =>
          obtain ⟨before, after, hrest, hstart⟩ := ih h
          refine ⟨.literal content :: before, after, by rw [hrest, List.cons_append], ?_⟩
          rw [hstart, List.flatMap_cons, Text.utf8Size_append, Token.text, Nat.add_assoc]
      | mark marker =>
          rcases List.mem_cons.mp h with rfl | h
          · exact ⟨[], rest, rfl, rfl⟩
          · obtain ⟨before, after, hrest, hstart⟩ := ih h
            refine ⟨.mark marker :: before, after, by rw [hrest, List.cons_append], ?_⟩
            rw [hstart, List.flatMap_cons, Text.utf8Size_append, Token.text, Nat.add_assoc]

theorem mark_mem_of_mem_placeMarkers (h : placed ∈ placeMarkers offset parts) :
    .mark placed.marker ∈ parts := by
  obtain ⟨before, after, rfl, -⟩ := exists_of_mem_placeMarkers h
  simp

theorem le_start_of_mem_placeMarkers (h : placed ∈ placeMarkers offset parts) :
    offset ≤ placed.span.start := by
  obtain ⟨before, after, -, hstart⟩ := exists_of_mem_placeMarkers h
  omega

theorem start_lt_of_mem_placeMarkers (h : placed ∈ placeMarkers offset parts) :
    placed.span.start < offset + Text.utf8Size (parts.flatMap Token.text) := by
  obtain ⟨before, after, rfl, hstart⟩ := exists_of_mem_placeMarkers h
  have hpos := placed.marker.utf8Size_text_pos
  rw [List.flatMap_append, List.flatMap_cons, Text.utf8Size_append, Text.utf8Size_append, hstart]
  simp only [Token.text]
  omega

end Places

/-! ## The closing marker of a block -/

/-- The tokens before the first closing marker of a name, and those after it. -/
def splitAtClosing? (name : Text) : List Token → Option (List Token × List Token)
  | [] => none
  | token :: rest =>
      if token = .mark ⟨.slash, name⟩ then some ([], rest)
      else (splitAtClosing? name rest).map fun (body, after) => (token :: body, after)

theorem eq_of_splitAtClosing? {name : Text} {parts body after : List Token}
    (h : splitAtClosing? name parts = some (body, after)) :
    parts = body ++ .mark ⟨.slash, name⟩ :: after ∧ .mark ⟨.slash, name⟩ ∉ body := by
  induction parts generalizing body with
  | nil => simp [splitAtClosing?] at h
  | cons token rest ih =>
      simp only [splitAtClosing?] at h
      split at h
      · next htoken =>
          simp only [Option.some.injEq, Prod.mk.injEq] at h
          obtain ⟨rfl, rfl⟩ := h
          exact ⟨by rw [htoken, List.nil_append], List.not_mem_nil⟩
      · next htoken =>
          simp only [Option.map_eq_some_iff, Prod.mk.injEq] at h
          obtain ⟨⟨inner, later⟩, hsplit, rfl, rfl⟩ := h
          obtain ⟨hrest, hinner⟩ := ih hsplit
          refine ⟨by rw [hrest, List.cons_append], ?_⟩
          simp only [List.mem_cons, not_or]
          exact ⟨Ne.symm htoken, hinner⟩

theorem length_lt_of_splitAtClosing? {name : Text} {parts body after : List Token}
    (h : splitAtClosing? name parts = some (body, after)) :
    body.length < parts.length ∧ after.length < parts.length := by
  rw [(eq_of_splitAtClosing? h).1, List.length_append, List.length_cons]
  omega

theorem notMem_of_splitAtClosing? {name : Text} {parts : List Token}
    (h : splitAtClosing? name parts = none) : .mark ⟨.slash, name⟩ ∉ parts := by
  induction parts with
  | nil => exact List.not_mem_nil
  | cons token rest ih =>
      simp only [splitAtClosing?] at h
      split at h
      · simp at h
      · next htoken =>
          simp only [Option.map_eq_none_iff] at h
          simp only [List.mem_cons, not_or]
          exact ⟨Ne.symm htoken, ih h⟩

/-! ## The body of a block and what follows it -/

/-- The polarity of the blocks that a marker of the sign opens. -/
def Polarity.ofSigil? : Sigil → Option Polarity
  | .hash => some .positive
  | .caret => some .negative
  | _ => none

theorem Polarity.ofSigil?_eq_some_iff {sigil : Sigil} {polarity : Polarity} :
    ofSigil? sigil = some polarity ↔ polarity.sigil = sigil := by
  cases sigil <;> cases polarity <;> simp [ofSigil?, Polarity.sigil]

theorem isOpening_of_polarity {placed : PlacedMarker} {polarity : Polarity}
    (h : polarity.sigil = placed.marker.sigil) : isOpening placed := by
  unfold isOpening
  rw [← h]
  cases polarity <;> decide

section Block

variable {marker : Marker} {polarity : Polarity} {rest body after : List Token}

/-- A template that starts with a block is clean exactly when the body of the block is clean, and
what follows it is, each in its place. -/
theorem isClean_block (offset : Nat) (hpolarity : Polarity.ofSigil? marker.sigil = some polarity)
    (hsplit : splitAtClosing? marker.name rest = some (body, after)) :
    ∃ start stop, (pairUp (placeMarkers offset (.mark marker :: rest))).IsClean ↔
      (pairUp (placeMarkers start body)).IsClean ∧ (pairUp (placeMarkers stop after)).IsClean := by
  obtain ⟨hrest, hbody⟩ := eq_of_splitAtClosing? hsplit
  let start := offset + Text.utf8Size marker.text
  let close := start + Text.utf8Size (body.flatMap Token.text)
  let stop := close + Text.utf8Size (Marker.mk .slash marker.name).text
  let pair : Pair := ⟨⟨marker, ⟨offset, start⟩⟩, ⟨⟨.slash, marker.name⟩, ⟨close, stop⟩⟩⟩
  have hstart : offset < start := Nat.lt_add_of_pos_right (Marker.utf8Size_text_pos _)
  -- the body starts where the opening marker stops, and what follows where the closing one does
  have hplaces : placeMarkers offset (.mark marker :: rest) =
      pair.opening :: (placeMarkers start body ++ pair.closing :: placeMarkers stop after) := by
    rw [hrest, placeMarkers, placeMarkers_append]
    rfl
  have hencloses : pair.Encloses (placeMarkers start body) (placeMarkers stop after) := by
    refine ⟨?_, by simp [isClosingOf, pair], ?_, ?_, ?_, ?_⟩
    · exact isOpening_of_polarity (Polarity.ofSigil?_eq_some_iff.mp hpolarity)
    · intro placed hplaced hclosing
      exact hbody (eq_of_isClosingOf hclosing ▸ mark_mem_of_mem_placeMarkers hplaced)
    · exact Nat.lt_add_of_pos_right (Marker.utf8Size_text_pos _)
    · intro placed hplaced
      have hle := le_start_of_mem_placeMarkers hplaced
      exact ⟨Nat.lt_of_lt_of_le hstart hle, start_lt_of_mem_placeMarkers hplaced⟩
    · intro placed hplaced
      exact le_start_of_mem_placeMarkers hplaced
  exact ⟨start, stop, hplaces ▸ hencloses.isClean_iff⟩

end Block

/-! ## Reading the tree -/

namespace Nesting

/-- The tree of a list of tokens.  A block marker without its partner is read as text. -/
def ofTokens : List Token → Nesting
  | [] => nil
  | .literal content :: rest => text content (ofTokens rest)
  | .mark marker :: rest =>
      match Polarity.ofSigil? marker.sigil, _hsplit : splitAtClosing? marker.name rest with
      | some polarity, some (body, after) =>
          block polarity marker.name (ofTokens body) (ofTokens after)
      | _, _ =>
          if marker.sigil = .plain then value marker.name (ofTokens rest)
          else text marker.text (ofTokens rest)
termination_by parts => parts.length
decreasing_by
  · exact Nat.lt_succ_self _
  · exact Nat.lt_succ_of_lt (length_lt_of_splitAtClosing? _hsplit).1
  · exact Nat.lt_succ_of_lt (length_lt_of_splitAtClosing? _hsplit).2
  · exact Nat.lt_succ_self _
  · exact Nat.lt_succ_self _

/-- The tree of a template. -/
def ofText (template : Text) : Nesting := ofTokens (tokens template)

theorem source_ofTokens (parts : List Token) :
    (ofTokens parts).source = parts.flatMap Token.text := by
  fun_induction ofTokens parts with
  | case1 => rfl
  | case2 content rest ih => simp [source, ih, Token.text]
  | case3 marker rest polarity body after hsplit hpolarity ihBody ihAfter =>
      have hsigil := Polarity.ofSigil?_eq_some_iff.mp hpolarity
      rw [source, ihBody, ihAfter, (eq_of_splitAtClosing? hsplit).1]
      simp [Block.text, Block.closingText, Token.text, hsigil]
  | case4 marker rest hplain _ ih =>
      rw [source, ih, List.flatMap_cons, Token.text, ← hplain]
  | case5 marker rest hplain _ ih =>
      rw [source, ih, List.flatMap_cons, Token.text]

theorem source_ofText (template : Text) : (ofText template).source = template := by
  rw [ofText, source_ofTokens, flatMap_text_tokens]

theorem mark_mem_of_mem_blocks {parts : List Token} {part : Part}
    (h : part ∈ (ofTokens parts).blocks) : .mark ⟨.slash, part.name⟩ ∈ parts := by
  fun_induction ofTokens parts with
  | case1 => simp [blocks] at h
  | case2 content rest ih => exact List.mem_cons_of_mem _ (ih h)
  | case3 marker rest polarity body after hsplit hpolarity ihBody ihAfter =>
      rw [(eq_of_splitAtClosing? hsplit).1]
      simp only [blocks, List.mem_cons, List.mem_append] at h ⊢
      rcases h with rfl | h | h
      · exact Or.inr (Or.inr (Or.inl rfl))
      · exact Or.inr (Or.inl (ihBody h))
      · exact Or.inr (Or.inr (Or.inr (ihAfter h)))
  | case4 marker rest hplain _ ih => exact List.mem_cons_of_mem _ (ih h)
  | case5 marker rest hplain _ ih => exact List.mem_cons_of_mem _ (ih h)

/-! ## The tree of a clean template -/

section Clean

variable {offset : Nat} {marker : Marker} {parts rest : List Token}

/-- A value marker takes no part in the pairing. -/
theorem pairUp_placeMarkers_value (offset : Nat) (rest : List Token)
    (hplain : marker.sigil = .plain) :
    pairUp (placeMarkers offset (.mark marker :: rest)) =
      pairUp (placeMarkers (offset + Text.utf8Size marker.text) rest) := by
  have hopening : ¬ isOpening ⟨marker, ⟨offset, offset + Text.utf8Size marker.text⟩⟩ := by
    simp [isOpening, hplain]
  rw [placeMarkers, pairUp_of_not_isOpening hopening]
  simp [hplain]

/-- A block marker without its partner closes a block, or opens one that nothing closes. -/
theorem eq_slash_or_splitAtClosing?_eq_none (hplain : marker.sigil ≠ .plain)
    (hunpaired : ∀ polarity body after, Polarity.ofSigil? marker.sigil = some polarity →
      splitAtClosing? marker.name rest = some (body, after) → False) :
    marker.sigil = .slash ∨ ∃ polarity : Polarity, polarity.sigil = marker.sigil ∧
      splitAtClosing? marker.name rest = none := by
  cases hpolarity : Polarity.ofSigil? marker.sigil with
  | none =>
      left
      cases hsigil : marker.sigil <;> simp_all [Polarity.ofSigil?]
  | some polarity =>
      refine Or.inr ⟨polarity, Polarity.ofSigil?_eq_some_iff.mp hpolarity, ?_⟩
      cases hsplit : splitAtClosing? marker.name rest with
      | some stretches => exact (hunpaired polarity _ _ hpolarity hsplit).elim
      | none => rfl

/-- A block marker without its partner is reported. -/
theorem not_isClean_unpaired (hplain : marker.sigil ≠ .plain)
    (hunpaired : ∀ polarity body after, Polarity.ofSigil? marker.sigil = some polarity →
      splitAtClosing? marker.name rest = some (body, after) → False) :
    ¬ (pairUp (placeMarkers offset (.mark marker :: rest))).IsClean := by
  intro h
  rw [placeMarkers] at h
  rcases eq_slash_or_splitAtClosing?_eq_none hplain hunpaired with hslash | ⟨polarity, hopening, hsplit⟩
  · -- a closing marker that no opening one before it has taken
    rw [pairUp_of_not_isOpening (by simp [isOpening, hslash])] at h
    have hstray := h.stray
    simp [hslash] at hstray
  · -- an opening marker that finds no closing one to take
    have htake : takeClosing? marker.name
        (placeMarkers (offset + Text.utf8Size marker.text) rest) = none := by
      refine takeClosing?_eq_none_iff.mpr fun placed hplaced hclosing => ?_
      exact notMem_of_splitAtClosing? hsplit
        (eq_of_isClosingOf hclosing ▸ mark_mem_of_mem_placeMarkers hplaced)
    rw [pairUp_of_takeClosing?_eq_none (isOpening_of_polarity hopening) htake] at h
    have hunclosed := h.unclosed
    simp at hunclosed

/-- The tree of a clean template is proper. -/
theorem isProper_ofTokens (hnames : ∀ marker, .mark marker ∈ parts → Marker.IsName marker.name)
    (hclean : (pairUp (placeMarkers offset parts)).IsClean) : (ofTokens parts).IsProper := by
  fun_induction ofTokens parts generalizing offset with
  | case1 => trivial
  | case2 content rest ih =>
      exact ih (fun marker hmarker => hnames marker (List.mem_cons_of_mem _ hmarker)) hclean
  | case3 marker rest polarity body after hsplit hpolarity ihBody ihAfter =>
      obtain ⟨start, stop, hblock⟩ := isClean_block offset hpolarity hsplit
      obtain ⟨hcleanBody, hcleanAfter⟩ := hblock.mp hclean
      obtain ⟨hrest, hbody⟩ := eq_of_splitAtClosing? hsplit
      rw [hrest] at hnames
      refine ⟨hnames marker (List.mem_cons_self ..), ?_, ?_, ?_⟩
      · -- the body ends at the first closing marker of its name, so no block in it has the name
        rintro part hpart hsame
        exact hbody (hsame ▸ mark_mem_of_mem_blocks hpart)
      · exact ihBody (fun inner hinner => hnames inner (by simp [hinner])) hcleanBody
      · exact ihAfter (fun later hlater => hnames later (by simp [hlater])) hcleanAfter
  | case4 marker rest hplain _ ih =>
      rw [pairUp_placeMarkers_value _ _ hplain] at hclean
      exact ⟨hnames marker (List.mem_cons_self ..),
        ih (fun later hlater => hnames later (List.mem_cons_of_mem _ hlater)) hclean⟩
  | case5 marker rest hplain hunpaired ih =>
      exact absurd hclean (not_isClean_unpaired hplain hunpaired)

/-- The tree of a clean template is settled when its literals are. -/
theorem isSettled_ofTokens (hliteral : ∀ content, .literal content ∈ parts → content.IsSettled)
    (hclean : (pairUp (placeMarkers offset parts)).IsClean) : (ofTokens parts).IsSettled := by
  fun_induction ofTokens parts generalizing offset with
  | case1 => trivial
  | case2 content rest ih =>
      exact ⟨hliteral content (List.mem_cons_self ..),
        ih (fun later hlater => hliteral later (List.mem_cons_of_mem _ hlater)) hclean⟩
  | case3 marker rest polarity body after hsplit hpolarity ihBody ihAfter =>
      obtain ⟨start, stop, hblock⟩ := isClean_block offset hpolarity hsplit
      obtain ⟨hcleanBody, hcleanAfter⟩ := hblock.mp hclean
      rw [(eq_of_splitAtClosing? hsplit).1] at hliteral
      exact ⟨ihBody (fun inner hinner => hliteral inner (by simp [hinner])) hcleanBody,
        ihAfter (fun later hlater => hliteral later (by simp [hlater])) hcleanAfter⟩
  | case4 marker rest hplain _ ih =>
      rw [pairUp_placeMarkers_value _ _ hplain] at hclean
      exact ih (fun later hlater => hliteral later (List.mem_cons_of_mem _ hlater)) hclean
  | case5 marker rest hplain hunpaired ih =>
      exact absurd hclean (not_isClean_unpaired hplain hunpaired)

end Clean

theorem isProper_ofText {template : Text} (h : (analyze template).isClean) :
    (ofText template).IsProper :=
  isProper_ofTokens (fun _ => isName_of_mem_tokens) (isClean_analyze_iff.mp h)

theorem isSettled_ofText {template : Text} (h : (analyze template).isClean)
    (hliteral : ∀ content, .literal content ∈ tokens template → content.IsSettled) :
    (ofText template).IsSettled :=
  isSettled_ofTokens hliteral (isClean_analyze_iff.mp h)

end Nesting

end Invoicing
