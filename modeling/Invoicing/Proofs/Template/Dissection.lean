import Invoicing.Proofs.Template.Unclosed

/-!
# How a sweep takes a text apart

A sweep looks for a block, replaces it, and looks again behind it.  On its way it meets other
markers of its sign.  Some stand in the body of a block that is replaced and are never looked at;
others are passed, because nothing closes them.  A closing marker far to the right could belong to
any of them, so one may doubt what is left: a marker that was passed too early, a stretch that is
copied twice or not at all, a block that is found in the text of a replacement.

Main statement: `replaceBlocks_exact`.  A text can be taken apart into blocks and the gaps around
them so that no marker of the sign in a gap is closed anywhere behind it, and there is one way to do
this.  The sweep copies the gaps and writes a replacement for each block, whatever the replacements
are.

## Strategy

`Dissection.IsLeftmost` says of the parts what has to hold, without a search.  The search for one
block is described in the same words (`Block.first?_eq_some_iff`, `Block.first?_eq_none_iff`), and
this is where the work lies: it goes from marker to marker of a gap, and what is asked of a gap is
asked of its first marker and of what stands behind it
(`Text.opensNoBlock_iff_of_first?_eq_some`).  Everything else is an induction on the dissection,
with the first block split off in each step (`Dissection.isLeftmost_cons_iff`).
-/

namespace Invoicing

/-! ## Gaps -/

namespace Text

/-- No marker of the sign that stands in the text is closed behind it, neither in the text itself
nor in what follows. -/
def OpensNoBlock (sigil : Sigil) (gap rest : Text) : Prop :=
  ∀ left name right, Marker.IsName name → gap = left ++ ((Marker.mk sigil name).text ++ right) →
    ¬ Block.closingText name <:+: right ++ rest

variable {sigil : Sigil} {gap rest : Text}

theorem opensNoBlock_of_first?_eq_none (h : Marker.first? gap = none) :
    OpensNoBlock sigil gap rest := by
  rintro left name right hname rfl
  obtain ⟨found, hfound, -⟩ := @Marker.exists_first?_eq_some left ⟨sigil, name⟩ hname right
  rw [h] at hfound
  exact absurd hfound.symm (Option.some_ne_none found)

/-- A gap opens no block when its first marker opens none and what stands behind it opens none. -/
theorem opensNoBlock_iff_of_first?_eq_some {found : Marker.Occurrence}
    (h : Marker.first? gap = some found) :
    OpensNoBlock sigil gap rest ↔
      Block.bodyAfter? sigil { found with after := found.after ++ rest } = none ∧
        OpensNoBlock sigil found.after rest := by
  obtain ⟨hgap, hname⟩ := Marker.eq_of_first? h
  rw [Block.bodyAfter?_eq_none_iff]
  constructor
  · intro hopens
    refine ⟨?_, ?_⟩
    · rintro rfl
      exact hopens found.before found.marker.name found.after hname hgap
    · intro left name right hinner hafter
      refine hopens (found.before ++ (found.marker.text ++ left)) name right hinner ?_
      rw [hgap, hafter]
      simp only [List.append_assoc]
  · rintro ⟨hfirst, hafter⟩ left name right hinner rfl
    rcases @Marker.eq_or_exists_of_first?_eq_some left right ⟨sigil, name⟩ found hinner h with
      rfl | ⟨middle, hmiddle⟩
    · exact hfirst rfl
    · exact hafter middle name right hinner hmiddle

end Text

/-! ## The first block -/

namespace Block

variable {sigil : Sigil} {source gap rest : Text} {block : Block}

/-- The name is that of a marker, and the closing marker behind the body is the first one. -/
structure IsProper (block : Block) : Prop where
  isName : Marker.IsName block.name
  not_isInfix : ¬ closingText block.name <:+: block.body

/-- The search passes a gap, unless a marker is made of the end of the gap and what follows. -/
theorem first?_append_of_opensNoBlock (h : gap.OpensNoBlock sigil rest)
    (hrest : ∀ text : Text, Marker.first? text = none → text.IsSettledBefore rest) :
    first? sigil (gap ++ rest) = (first? sigil rest).map fun found =>
      { found with before := gap ++ found.before } := by
  induction gap using tokens.induct with
  | case1 gap hnone => exact first?_append_of_isSettledBefore (hrest gap hnone)
  | case2 gap opening hopening ih =>
      obtain ⟨hbody, hafter⟩ := (Text.opensNoBlock_iff_of_first?_eq_some hopening).mp h
      rw [first?_of_first?_eq_some (Marker.first?_append hopening rest), hbody]
      -- no block is opened, so the search goes on behind the marker
      show Option.map _ (first? sigil (opening.after ++ rest)) = _
      rw [ih hafter, Option.map_map]
      congr 1
      funext found
      simp only [Function.comp_apply, (Marker.eq_of_first? hopening).1, List.append_assoc]

theorem opensNoBlock_of_first?_eq_none (h : first? sigil source = none) :
    source.OpensNoBlock sigil [] := by
  fun_induction first? sigil source with
  | case1 source hnone => exact Text.opensNoBlock_of_first?_eq_none hnone
  | case2 => simp at h
  | case3 source opening hopening hbody ih =>
      rw [Option.map_eq_none_iff] at h
      rw [Text.opensNoBlock_iff_of_first?_eq_some hopening, List.append_nil]
      exact ⟨hbody, ih h⟩

theorem opensNoBlock_of_first?_eq_some {found : Occurrence}
    (h : first? sigil source = some found) :
    found.before.OpensNoBlock sigil (found.block.text sigil ++ found.after) ∧
      found.block.IsProper := by
  fun_induction first? sigil source generalizing found with
  | case1 => simp at h
  | case2 source opening hopening body after hbody =>
      obtain rfl : _ = found := Option.some.inj h
      obtain ⟨-, hsplit⟩ := bodyAfter?_eq_some_iff.mp hbody
      have hbefore : Marker.first? opening.before = none := Marker.first?_before_eq_none hopening
      exact ⟨Text.opensNoBlock_of_first?_eq_none hbefore, (Marker.eq_of_first? hopening).2,
        Text.not_isInfix_of_splitAtFirst? (closingText_ne_nil _) hsplit⟩
  | case3 source opening hopening hbody ih =>
      obtain ⟨inner, hinner, rfl⟩ := Option.map_eq_some_iff.mp h
      obtain ⟨hopens, hproper⟩ := ih hinner
      -- the marker that was passed is the first one of the gap
      have hfirst : Marker.first? (opening.before ++ (opening.marker.text ++ inner.before)) =
          some ⟨opening.before, opening.marker, inner.before⟩ :=
        Marker.first?_append_text (Marker.first?_before_eq_none hopening)
          (Marker.eq_of_first? hopening).2 inner.before
      refine ⟨?_, hproper⟩
      rw [Text.opensNoBlock_iff_of_first?_eq_some hfirst]
      refine ⟨?_, hopens⟩
      rw [← (eq_of_first? hinner).1]
      exact hbody

/-- **The first block of a text**, said without a search: it is properly closed, and no marker of
the sign in front of it is closed anywhere. -/
theorem first?_eq_some_iff :
    first? sigil source = some ⟨gap, block, rest⟩ ↔
      source = gap ++ (block.text sigil ++ rest) ∧ block.IsProper ∧
        gap.OpensNoBlock sigil (block.text sigil ++ rest) := by
  constructor
  · intro h
    obtain ⟨hopens, hproper⟩ := opensNoBlock_of_first?_eq_some h
    exact ⟨(eq_of_first? h).1, hproper, hopens⟩
  · rintro ⟨rfl, hproper, hopens⟩
    have hsettled : ∀ text : Text, Marker.first? text = none →
        text.IsSettledBefore (block.text sigil ++ rest) := by
      intro text htext
      rw [Block.text, List.append_assoc]
      exact Text.isSettledBefore_text htext _ _
    rw [first?_append_of_opensNoBlock hopens hsettled,
      first?_block_append hproper.isName hproper.not_isInfix]
    simp

theorem first?_eq_none_iff : first? sigil source = none ↔ source.OpensNoBlock sigil [] := by
  refine ⟨opensNoBlock_of_first?_eq_none, ?_⟩
  intro hopens
  have hsettled : ∀ text : Text, Marker.first? text = none → text.IsSettledBefore [] := by
    intro text htext suffix hsuffix _
    rw [List.append_nil]
    exact Text.read?_suffix_eq_none htext hsuffix
  have hnil : first? sigil [] = none := first?_of_first?_eq_none rfl
  have hfirst := first?_append_of_opensNoBlock hopens hsettled
  rwa [List.append_nil, hnil, Option.map_none] at hfirst

end Block

/-! ## Dissections -/

/-- A text taken apart into blocks and the gaps around them. -/
inductive Dissection where
  /-- The gap behind the last block. -/
  | last (gap : Text)
  /-- A gap, the block behind it, and what follows. -/
  | cons (gap : Text) (block : Block) (later : Dissection)

namespace Dissection

/-- The gaps and a text for each block, one after another. -/
def write (form : Block → Text) : Dissection → Text
  | last gap => gap
  | cons gap block later => gap ++ (form block ++ later.write form)

/-- The blocks in their order. -/
def blocks : Dissection → List Block
  | last _ => []
  | cons _ block later => block :: later.blocks

/-- The gaps in their order, each with all the text that follows it. -/
def gaps (sigil : Sigil) : Dissection → List (Text × Text)
  | last gap => [(gap, [])]
  | cons gap block later =>
      (gap, block.text sigil ++ later.write (Block.text sigil)) :: later.gaps sigil

/-- The blocks with their spans in a text that starts at an offset. -/
def placed (sigil : Sigil) (offset : ℕ) : Dissection → List (Block × Span)
  | last _ => []
  | cons gap block later =>
      let start := offset + Text.utf8Size gap
      let stop := start + Text.utf8Size (block.text sigil)
      (block, ⟨start, stop⟩) :: later.placed sigil stop

/-- The gaps and the blocks make up the text, the blocks are properly closed, and no marker of the
sign that stands in a gap is closed anywhere behind it. -/
structure IsLeftmost (sigil : Sigil) (dissection : Dissection) (source : Text) : Prop where
  write_eq : dissection.write (Block.text sigil) = source
  isProper : ∀ block ∈ dissection.blocks, block.IsProper
  opensNoBlock : ∀ gap rest, (gap, rest) ∈ dissection.gaps sigil → gap.OpensNoBlock sigil rest

variable {sigil : Sigil} {source gap : Text} {found : Block} {dissection later : Dissection}

/-- Only a text without a block is one gap. -/
theorem isLeftmost_last_iff :
    (last gap).IsLeftmost sigil source ↔ gap = source ∧ Block.first? sigil source = none := by
  constructor
  · rintro ⟨rfl, -, hopens⟩
    exact ⟨rfl, Block.first?_eq_none_iff.mpr (hopens gap [] (List.mem_singleton_self _))⟩
  · rintro ⟨rfl, hnone⟩
    refine ⟨rfl, List.forall_mem_nil _, ?_⟩
    intro other rest hmem
    obtain ⟨rfl, rfl⟩ := Prod.mk.inj (List.mem_singleton.mp hmem)
    exact Block.first?_eq_none_iff.mp hnone

/-- Otherwise the first block is the one that the search finds. -/
theorem isLeftmost_cons_iff :
    (cons gap found later).IsLeftmost sigil source ↔
      ∃ after, Block.first? sigil source = some ⟨gap, found, after⟩ ∧
        later.IsLeftmost sigil after := by
  constructor
  · rintro ⟨rfl, hproper, hopens⟩
    obtain ⟨hfound, hlater⟩ := List.forall_mem_cons.mp hproper
    have hgap := hopens gap _ (List.mem_cons_self ..)
    refine ⟨_, Block.first?_eq_some_iff.mpr ⟨rfl, hfound, hgap⟩, rfl, hlater, ?_⟩
    intro other rest hmem
    exact hopens other rest (List.mem_cons_of_mem _ hmem)
  · rintro ⟨after, hfirst, rfl, hproper, hopens⟩
    obtain ⟨rfl, hfound, hgap⟩ := Block.first?_eq_some_iff.mp hfirst
    refine ⟨rfl, List.forall_mem_cons.mpr ⟨hfound, hproper⟩, ?_⟩
    intro other rest hmem
    rcases List.mem_cons.mp hmem with hhead | hmem
    · obtain ⟨rfl, rfl⟩ := Prod.mk.inj hhead
      exact hgap
    · exact hopens other rest hmem

/-- Every text can be taken apart. -/
theorem exists_isLeftmost (sigil : Sigil) (source : Text) :
    ∃ dissection : Dissection, dissection.IsLeftmost sigil source := by
  induction source using replaceBlocks.induct sigil with
  | case1 source hnone => exact ⟨last source, isLeftmost_last_iff.mpr ⟨rfl, hnone⟩⟩
  | case2 source found hfound ih =>
      obtain ⟨later, hlater⟩ := ih
      exact ⟨cons found.before found.block later,
        isLeftmost_cons_iff.mpr ⟨found.after, hfound, hlater⟩⟩

/-- There is no second way to do it. -/
theorem IsLeftmost.unique {other : Dissection} (h : dissection.IsLeftmost sigil source)
    (hother : other.IsLeftmost sigil source) : other = dissection := by
  induction dissection generalizing source other with
  | last gap =>
      obtain ⟨rfl, hnone⟩ := isLeftmost_last_iff.mp h
      cases other with
      | last gap => rw [(isLeftmost_last_iff.mp hother).1]
      | cons gap found later =>
          obtain ⟨after, hfound, -⟩ := isLeftmost_cons_iff.mp hother
          rw [hnone] at hfound
          exact absurd hfound.symm (Option.some_ne_none _)
  | cons gap found later ih =>
      obtain ⟨after, hfound, hlater⟩ := isLeftmost_cons_iff.mp h
      cases other with
      | last gap =>
          rw [(isLeftmost_last_iff.mp hother).2] at hfound
          exact absurd hfound.symm (Option.some_ne_none _)
      | cons gap found later =>
          obtain ⟨after, hagain, hlater'⟩ := isLeftmost_cons_iff.mp hother
          rw [hfound, Option.some.injEq, Block.Occurrence.mk.injEq] at hagain
          obtain ⟨rfl, rfl, rfl⟩ := hagain
          rw [ih hlater hlater']

/-- A sweep writes the gaps as they are and a replacement for each block. -/
theorem IsLeftmost.replaceBlocks_eq (h : dissection.IsLeftmost sigil source)
    (replacement : Block → Text) :
    replaceBlocks sigil replacement source = dissection.write replacement := by
  induction dissection generalizing source with
  | last gap =>
      obtain ⟨rfl, hnone⟩ := isLeftmost_last_iff.mp h
      exact replaceBlocks_of_first?_eq_none hnone replacement
  | cons gap found later ih =>
      obtain ⟨after, hfound, hlater⟩ := isLeftmost_cons_iff.mp h
      rw [replaceBlocks_of_first?_eq_some hfound, ih hlater, write]

/-- Searching on from the end of each block finds the blocks of the dissection. -/
theorem IsLeftmost.placed_eq (h : dissection.IsLeftmost sigil source) (lead : Text) :
    dissection.placed sigil (Text.utf8Size lead) =
      Block.blocksFrom sigil (lead ++ source) (Text.utf8Size lead) := by
  induction dissection generalizing source lead with
  | last gap =>
      have hnone := Block.firstFrom?_append sigil lead source
      rw [(isLeftmost_last_iff.mp h).2, Option.map_none] at hnone
      rw [Block.blocksFrom_of_firstFrom?_eq_none hnone, placed]
  | cons gap found later ih =>
      obtain ⟨after, hfound, hlater⟩ := isLeftmost_cons_iff.mp h
      have hplaced := Block.firstFrom?_append sigil lead source
      rw [hfound, Option.map_some] at hplaced
      have hsource : lead ++ source = lead ++ (gap ++ found.text sigil) ++ after := by
        rw [(Block.eq_of_first? hfound).1]
        simp only [List.append_assoc]
      rw [Block.blocksFrom_of_firstFrom?_eq_some hplaced, hsource, ← ih hlater, placed]
      simp only [Text.utf8Size_append, Nat.add_assoc]

end Dissection

/-- **A sweep takes its text apart and replaces the blocks where they stand.**  There is one way to
take a text apart so that no marker of the sign in a gap is closed anywhere behind it.  The sweep
copies the gaps and writes a replacement for each block; with the blocks themselves it gives the
text back.  The blocks are those that a search of the text finds from the end of each one, and no
other block is asked for, whatever stands in the replacements. -/
theorem replaceBlocks_exact (sigil : Sigil) (source : Text) :
    ∃ dissection : Dissection,
      (∀ other : Dissection, other.IsLeftmost sigil source ↔ other = dissection) ∧
      (∀ replacement, replaceBlocks sigil replacement source = dissection.write replacement) ∧
      replaceBlocks sigil (Block.text sigil) source = source ∧
      dissection.placed sigil 0 = Block.blocksFrom sigil source 0 ∧
      ∀ first second : Block → Text,
        (∀ placed ∈ dissection.placed sigil 0, first placed.1 = second placed.1) →
          replaceBlocks sigil first source = replaceBlocks sigil second source := by
  obtain ⟨dissection, hleftmost⟩ := Dissection.exists_isLeftmost sigil source
  have hplaced : dissection.placed sigil 0 = Block.blocksFrom sigil source 0 :=
    hleftmost.placed_eq []
  refine ⟨dissection, ?_, hleftmost.replaceBlocks_eq, ?_, hplaced, ?_⟩
  · intro other
    refine ⟨hleftmost.unique, ?_⟩
    rintro rfl
    exact hleftmost
  · calc replaceBlocks sigil (Block.text sigil) source
        = dissection.write (Block.text sigil) := hleftmost.replaceBlocks_eq _
      _ = source := hleftmost.write_eq
  · intro first second hsame
    rw [hplaced] at hsame
    exact Block.replaceBlocks_congr [] source hsame

/-- A block in the text of a replacement stays as it is. -/
example :
    replaceBlocks .hash Block.body
        "\x7b\x7b#A\x7d\x7d\x7b\x7b#B\x7d\x7dx\x7b\x7b/B\x7d\x7d\x7b\x7b/A\x7d\x7d".toList =
      "\x7b\x7b#B\x7d\x7dx\x7b\x7b/B\x7d\x7d".toList := by
  decide +kernel

end Invoicing
