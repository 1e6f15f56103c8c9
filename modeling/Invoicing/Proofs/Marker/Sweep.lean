import Invoicing.Marker.Block
import Invoicing.Proofs.Marker.Tokens

/-!
# One sweep over a joined text

`replaceBlocks` and `replaceValues` read a whole text from left to right.  This file
says what they do to a text that is put together from parts, one part at a time: what
follows a part never changes what happens to it.

* A text that is settled before what follows is copied
  (`replaceBlocks_append_of_isSettledBefore`, `replaceValues_append_of_isSettledBefore`).
* A marker of another sign is copied (`replaceBlocks_text_append`), and a plain one gives
  way to its value (`replaceValues_text_append`).
* A block whose body does not hold its own closing marker is replaced
  (`replaceBlocks_block_append`).

A sweep that finds no marker of its sign changes nothing (`replaceBlocks_eq_self`,
`replaceValues_eq_self`).
-/

namespace Invoicing

namespace Block

/-! ## The first block of a joined text -/

/-- The closing marker that ends a body is the first one when the body holds none. -/
theorem splitAtFirst?_closingText {name : Text} (hname : Marker.IsName name) {body : Text}
    (hbody : ¬ closingText name <:+: body) (after : Text) :
    Text.splitAtFirst? (closingText name) (body ++ (closingText name ++ after)) =
      some (body, after) := by
  induction body with
  | nil =>
      have hstarts : (closingText name).isPrefixOf (closingText name ++ after) = true :=
        List.isPrefixOf_iff_prefix.mpr (List.prefix_append _ _)
      have hdrop : (closingText name ++ after).drop (closingText name).length = after :=
        List.drop_left
      rw [closingText, Marker.text_append_eq_cons] at hstarts hdrop
      rw [closingText, List.nil_append, Marker.text_append_eq_cons]
      simp [Text.splitAtFirst?, hstarts, hdrop]
  | cons head tail ih =>
      -- a closing marker that starts in the body would end there too
      have hnot : ¬ closingText name <+: head :: tail ++ (closingText name ++ after) := by
        rintro ⟨rest, hrest⟩
        obtain ⟨more, hmore⟩ := @Marker.exists_eq_text_append ⟨.slash, name⟩ ⟨.slash, name⟩ hname
          _ _ _ (List.cons_ne_nil head tail) hrest.symm
        exact hbody ⟨[], more, by simpa [closingText] using hmore.symm⟩
      have htail : ¬ closingText name <:+: tail := by
        intro hinner
        exact hbody (List.infix_cons hinner)
      rw [← List.isPrefixOf_iff_prefix] at hnot
      simp only [List.cons_append] at hnot ⊢
      simp [Text.splitAtFirst?, hnot, ih htail]

variable {sigil : Sigil} {source : Text}

theorem first?_of_first?_eq_none (h : Marker.first? source = none) :
    first? sigil source = none := by
  rw [first?]
  split <;> simp_all

/-- A marker that opens a block gives the first block; otherwise the search goes on
behind it. -/
theorem first?_of_first?_eq_some {opening : Marker.Occurrence}
    (h : Marker.first? source = some opening) :
    first? sigil source =
      match bodyAfter? sigil opening with
      | some (body, after) => some ⟨opening.before, ⟨opening.marker.name, body⟩, after⟩
      | none => (first? sigil opening.after).map fun found =>
          { found with before := opening.before ++ (opening.marker.text ++ found.before) } := by
  rw [first?]
  split
  · simp_all
  · next found hfound =>
      obtain rfl : found = opening := by simpa [hfound] using h
      rfl

theorem first?_append_of_isSettledBefore {text rest : Text} (htext : text.IsSettledBefore rest) :
    first? sigil (text ++ rest) = (first? sigil rest).map fun found =>
      { found with before := text ++ found.before } := by
  have hmarker := Marker.first?_append_of_isSettledBefore htext
  cases hrest : Marker.first? rest with
  | none =>
      rw [hrest, Option.map_none] at hmarker
      rw [first?_of_first?_eq_none hmarker, first?_of_first?_eq_none hrest, Option.map_none]
  | some opening =>
      rw [hrest, Option.map_some] at hmarker
      rw [first?_of_first?_eq_some hmarker, first?_of_first?_eq_some hrest]
      have hbody : bodyAfter? sigil { opening with before := text ++ opening.before } =
          bodyAfter? sigil opening := rfl
      rw [hbody]
      cases bodyAfter? sigil opening with
      | none => simp [Function.comp_def]
      | some parts => rfl

/-- A marker that opens no block is passed. -/
theorem first?_text_append_of_bodyAfter? {marker : Marker} (hname : Marker.IsName marker.name)
    {rest : Text} (hbody : bodyAfter? sigil ⟨[], marker, rest⟩ = none) :
    first? sigil (marker.text ++ rest) = (first? sigil rest).map fun found =>
      { found with before := marker.text ++ found.before } := by
  rw [first?_of_first?_eq_some (Marker.first?_text_append hname rest), hbody]
  simp

theorem bodyAfter?_eq_none {before rest : Text} {marker : Marker} (hsigil : marker.sigil ≠ sigil) :
    bodyAfter? sigil ⟨before, marker, rest⟩ = none := by
  simp [bodyAfter?, hsigil]

theorem bodyAfter?_eq_none_of_not_isInfix {before rest : Text} {marker : Marker}
    (hclosing : ¬ closingText marker.name <:+: rest) :
    bodyAfter? sigil ⟨before, marker, rest⟩ = none := by
  cases hbody : bodyAfter? sigil ⟨before, marker, rest⟩ with
  | none => rfl
  | some stretches =>
      obtain ⟨-, hsplit⟩ := bodyAfter?_eq_some_iff.mp hbody
      exact absurd ⟨_, _, (Text.append_of_splitAtFirst? hsplit).symm⟩ hclosing

theorem first?_block_append {block : Block} (hname : Marker.IsName block.name)
    (hbody : ¬ closingText block.name <:+: block.body) (rest : Text) :
    first? sigil (block.text sigil ++ rest) = some ⟨[], block, rest⟩ := by
  have hopen : block.text sigil ++ rest = (Marker.mk sigil block.name).text ++
      (block.body ++ (closingText block.name ++ rest)) := by
    simp [Block.text]
  have hsplit := splitAtFirst?_closingText hname hbody rest
  rw [hopen, first?_of_first?_eq_some (@Marker.first?_text_append ⟨sigil, block.name⟩ hname _)]
  simp [bodyAfter?, hsplit]

/-- Only a marker of the sign can open a block. -/
theorem first?_eq_none (h : ∀ marker ∈ markersOf source, marker.sigil ≠ sigil) :
    first? sigil source = none := by
  fun_induction first? sigil source with
  | case1 => rfl
  | case2 source opening hopening body after hbody =>
      have hmem : opening.marker ∈ markersOf source := by
        simp [markersOf_of_first?_eq_some hopening]
      exact absurd (bodyAfter?_eq_some_iff.mp hbody).1 (h _ hmem)
  | case3 source opening hopening hbody ih =>
      have hafter : ∀ marker ∈ markersOf opening.after, marker.sigil ≠ sigil := by
        intro marker hmarker
        refine h marker ?_
        rw [markersOf_of_first?_eq_some hopening]
        exact List.mem_cons_of_mem _ hmarker
      rw [ih hafter, Option.map_none]

/-- The markers of a text that starts with a block. -/
theorem markersOf_text_append {block : Block} (hname : Marker.IsName block.name)
    (rest : Text) :
    markersOf (block.text sigil ++ rest) = ⟨sigil, block.name⟩ ::
      (markersOf block.body ++ ⟨.slash, block.name⟩ :: markersOf rest) := by
  have htext : block.text sigil ++ rest = (Marker.mk sigil block.name).text ++
      (block.body ++ ((Marker.mk .slash block.name).text ++ rest)) := by
    simp [Block.text, closingText]
  rw [htext, Invoicing.markersOf_text_append (by exact hname),
    Invoicing.markersOf_append_text _ (by exact hname)]

end Block

/-! ## Replacing blocks -/

section Blocks

variable {sigil : Sigil} (replacement : Block → Text)

theorem replaceBlocks_append_of_first? {text rest : Text}
    (h : Block.first? sigil (text ++ rest) = (Block.first? sigil rest).map fun found =>
      { found with before := text ++ found.before }) :
    replaceBlocks sigil replacement (text ++ rest) =
      text ++ replaceBlocks sigil replacement rest := by
  cases hrest : Block.first? sigil rest with
  | none =>
      rw [hrest, Option.map_none] at h
      rw [replaceBlocks_of_first?_eq_none h, replaceBlocks_of_first?_eq_none hrest]
  | some found =>
      rw [hrest, Option.map_some] at h
      rw [replaceBlocks_of_first?_eq_some h, replaceBlocks_of_first?_eq_some hrest]
      simp

theorem replaceBlocks_append_of_isSettledBefore {text rest : Text}
    (htext : text.IsSettledBefore rest) :
    replaceBlocks sigil replacement (text ++ rest) =
      text ++ replaceBlocks sigil replacement rest :=
  replaceBlocks_append_of_first? replacement (Block.first?_append_of_isSettledBefore htext)

theorem replaceBlocks_text_append {marker : Marker} (hname : Marker.IsName marker.name)
    (hsigil : marker.sigil ≠ sigil) (rest : Text) :
    replaceBlocks sigil replacement (marker.text ++ rest) =
      marker.text ++ replaceBlocks sigil replacement rest :=
  replaceBlocks_append_of_first? replacement
    (Block.first?_text_append_of_bodyAfter? hname (Block.bodyAfter?_eq_none hsigil))

/-- A marker whose name nothing closes is copied, whatever its sign. -/
theorem replaceBlocks_text_append_of_not_isInfix {marker : Marker}
    (hname : Marker.IsName marker.name) {rest : Text}
    (hclosing : ¬ Block.closingText marker.name <:+: rest) :
    replaceBlocks sigil replacement (marker.text ++ rest) =
      marker.text ++ replaceBlocks sigil replacement rest :=
  replaceBlocks_append_of_first? replacement
    (Block.first?_text_append_of_bodyAfter? hname
      (Block.bodyAfter?_eq_none_of_not_isInfix hclosing))

theorem replaceBlocks_block_append {block : Block} (hname : Marker.IsName block.name)
    (hbody : ¬ Block.closingText block.name <:+: block.body) (rest : Text) :
    replaceBlocks sigil replacement (block.text sigil ++ rest) =
      replacement block ++ replaceBlocks sigil replacement rest := by
  rw [replaceBlocks_of_first?_eq_some (Block.first?_block_append hname hbody rest)]
  rfl

@[simp] theorem replaceBlocks_nil : replaceBlocks sigil replacement [] = [] :=
  replaceBlocks_of_first?_eq_none (Block.first?_of_first?_eq_none rfl) replacement

/-- A text that is one block gives way to its replacement. -/
theorem replaceBlocks_block {block : Block} (hname : Marker.IsName block.name)
    (hbody : ¬ Block.closingText block.name <:+: block.body) :
    replaceBlocks sigil replacement (block.text sigil) = replacement block := by
  simpa using replaceBlocks_block_append replacement hname hbody []

theorem replaceBlocks_eq_self {source : Text}
    (h : ∀ marker ∈ markersOf source, marker.sigil ≠ sigil) :
    replaceBlocks sigil replacement source = source :=
  replaceBlocks_of_first?_eq_none (Block.first?_eq_none h) replacement

end Blocks

/-! ## Replacing values -/

section Values

variable (value : Text → Text)

theorem replaceValues_of_first?_eq_none {source : Text} (h : Marker.first? source = none) :
    replaceValues value source = source := by
  simp [replaceValues, tokens_of_first?_eq_none h]

theorem replaceValues_of_first?_eq_some {source : Text} {found : Marker.Occurrence}
    (h : Marker.first? source = some found) :
    replaceValues value source = found.before ++
      ((if found.marker.sigil = .plain then value found.marker.name else found.marker.text) ++
        replaceValues value found.after) := by
  simp [replaceValues, tokens_of_first?_eq_some h]

theorem replaceValues_append_of_isSettledBefore {text rest : Text}
    (htext : text.IsSettledBefore rest) :
    replaceValues value (text ++ rest) = text ++ replaceValues value rest := by
  have hmarker := Marker.first?_append_of_isSettledBefore htext
  cases hrest : Marker.first? rest with
  | none =>
      rw [hrest, Option.map_none] at hmarker
      rw [replaceValues_of_first?_eq_none value hmarker,
        replaceValues_of_first?_eq_none value hrest]
  | some found =>
      rw [hrest, Option.map_some] at hmarker
      rw [replaceValues_of_first?_eq_some value hmarker,
        replaceValues_of_first?_eq_some value hrest]
      simp

theorem replaceValues_text_append {marker : Marker} (hname : Marker.IsName marker.name)
    (rest : Text) :
    replaceValues value (marker.text ++ rest) =
      (if marker.sigil = .plain then value marker.name else marker.text) ++
        replaceValues value rest := by
  rw [replaceValues_of_first?_eq_some value (Marker.first?_text_append hname rest)]
  rfl

@[simp] theorem replaceValues_nil : replaceValues value [] = [] :=
  replaceValues_of_first?_eq_none value rfl

theorem replaceValues_eq_self {source : Text}
    (h : ∀ marker ∈ markersOf source, marker.sigil ≠ .plain) :
    replaceValues value source = source := by
  conv_rhs => rw [← flatMap_text_tokens source]
  refine List.flatMap_congr ?_
  intro token htoken
  cases token with
  | literal text => rfl
  | mark marker => simp [Token.text, h marker (mem_markersOf.mpr htoken)]

variable {value}

/-- Values without opening braces take two opening braces away with each plain marker. -/
theorem count_replaceValues {source : Text}
    (h : ∀ marker ∈ markersOf source, marker.sigil = .plain → '{' ∉ value marker.name) :
    (replaceValues value source).count '{' +
      2 * (markersOf source).countP (·.sigil = .plain) = source.count '{' := by
  induction source using tokens.induct with
  | case1 source hnone =>
      rw [replaceValues_of_first?_eq_none value hnone, markersOf_of_first?_eq_none hnone]
      simp
  | case2 source found hfound ih =>
      obtain ⟨hsource, hname⟩ := Marker.eq_of_first? hfound
      rw [markersOf_of_first?_eq_some hfound] at h ⊢
      rw [replaceValues_of_first?_eq_some value hfound]
      have hafter := ih fun marker hmarker => h marker (List.mem_cons_of_mem _ hmarker)
      have htext := Marker.count_text hname
      have hcount : source.count '{' =
          found.before.count '{' + (2 + found.after.count '{') := by
        rw [hsource, List.count_append, List.count_append, htext]
      -- a plain marker gives its two braces up, any other one keeps them
      by_cases hsigil : found.marker.sigil = .plain
      · have hvalue := List.count_eq_zero.mpr (h _ (List.mem_cons_self ..) hsigil)
        simp [hsigil, List.count_append, hvalue]
        omega
      · simp [hsigil, List.count_append, htext]
        omega

end Values

end Invoicing
