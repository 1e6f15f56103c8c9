import Invoicing.Proofs.Marker.Blocks
import Invoicing.Proofs.Template.Repetition
import Mathlib.Data.List.TFAE
import Mathlib.Tactic.TFAE

/-!
# Texts that rendering leaves alone

A text in which nothing is left to resolve comes out of the renderer as it went in, whatever braces
it holds: opening markers that nothing closes, closing markers out of place, half a marker.  One
would like the converse as well.  It is not clear, since a pass may take a block out and so bring
braces together for the next pass, and what comes out in the end could by accident be the text that
went in.

It cannot.  Main statement: `renderText_eq_self_tfae`.  In the empty context a rendering is a fixed
point exactly when the text asks for no value and no block is found in it, and then it is one in
every context.

## Strategy

In the empty context every pass only takes characters away: a `#` block goes with its body, a `^`
block loses its markers, a plain marker goes.  So the output of each pass is a sublist of its input
(`replaceBlocks_sublist`, `replaceValues_sublist`), and a rendering that gives the text back has
taken nothing away in any pass.  A pass that finds something to replace takes characters away
(`first?_eq_none_of_replaceBlocks_eq_self`), hence no pass has found anything.
-/

namespace Invoicing

/-- Characters that are taken away take their octets along. -/
theorem Text.utf8Size_le_of_sublist {fewer text : Text} (h : fewer.Sublist text) :
    utf8Size fewer ≤ utf8Size text := by
  induction h with
  | slnil => exact Nat.le_refl _
  | cons head _ ih =>
      rw [utf8Size_cons]
      exact Nat.le_trans ih (Nat.le_add_left _ _)
  | cons_cons head _ ih =>
      rw [utf8Size_cons, utf8Size_cons]
      exact Nat.add_le_add_left ih _

theorem Block.firstFrom?_zero_eq_none_iff {source : Text} {sigil : Sigil} :
    firstFrom? source 0 sigil = none ↔ first? sigil source = none := by
  have happend := firstFrom?_append sigil [] source
  rw [List.nil_append, Text.utf8Size_nil] at happend
  rw [happend, Option.map_eq_none_iff]

/-- A body is shorter than its block. -/
theorem Block.body_ne_text (sigil : Sigil) (block : Block) : block.body ≠ block.text sigil := by
  intro hbody
  have hlength := congrArg List.length hbody
  simp only [text, Marker.text_eq_cons, List.length_append, List.length_cons] at hlength
  omega

theorem Block.body_sublist_text (sigil : Sigil) (block : Block) :
    block.body.Sublist (block.text sigil) :=
  (List.sublist_append_left block.body _).trans (List.sublist_append_right _ _)

theorem Block.nil_ne_text (sigil : Sigil) (block : Block) : [] ≠ block.text sigil := by
  simp [text, Marker.text_eq_cons]

/-! ## Sweeps that take characters away -/

section Blocks

variable {sigil : Sigil} {replacement : Block → Text} {source : Text}

/-- A sweep takes characters away only, when each replacement does. -/
theorem replaceBlocks_sublist (h : ∀ block, (replacement block).Sublist (block.text sigil))
    (source : Text) : (replaceBlocks sigil replacement source).Sublist source := by
  induction source using replaceBlocks.induct sigil with
  | case1 source hnone => rw [replaceBlocks_of_first?_eq_none hnone]
  | case2 source found hfound ih =>
      rw [replaceBlocks_of_first?_eq_some hfound]
      conv_rhs => rw [(Block.eq_of_first? hfound).1]
      exact (List.Sublist.refl _).append ((h found.block).append ih)

/-- Such a sweep gives the text back only if it finds no block. -/
theorem first?_eq_none_of_replaceBlocks_eq_self
    (h : ∀ block, (replacement block).Sublist (block.text sigil))
    (hne : ∀ block, replacement block ≠ block.text sigil)
    (hself : replaceBlocks sigil replacement source = source) :
    Block.first? sigil source = none := by
  cases hfound : Block.first? sigil source with
  | none => rfl
  | some found =>
      have hafter : (replaceBlocks sigil replacement found.after).length ≤ found.after.length :=
        (replaceBlocks_sublist h found.after).length_le
      have hblock : (replacement found.block).length ≤ (found.block.text sigil).length :=
        (h found.block).length_le
      have hlength : (replacement found.block).length +
          (replaceBlocks sigil replacement found.after).length =
            (found.block.text sigil).length + found.after.length := by
        rw [replaceBlocks_of_first?_eq_some hfound] at hself
        have hsource := congrArg List.length (hself.trans (Block.eq_of_first? hfound).1)
        simp only [List.length_append] at hsource
        omega
      exact absurd ((h found.block).eq_of_length (by omega)) (hne found.block)

end Blocks

theorem replaceValues_sublist {value : Text → Text} (h : ∀ name, value name = []) (source : Text) :
    (replaceValues value source).Sublist source := by
  induction source using tokens.induct with
  | case1 source hnone => rw [replaceValues_of_first?_eq_none value hnone]
  | case2 source found hfound ih =>
      rw [replaceValues_of_first?_eq_some value hfound]
      conv_rhs => rw [(Marker.eq_of_first? hfound).1]
      refine (List.Sublist.refl _).append (List.Sublist.append ?_ ih)
      split
      · rw [h]
        exact List.nil_sublist _
      · exact List.Sublist.refl _

namespace Template

/-! ## The passes in the empty context -/

/-- Without bindings the section pass drops the `#` blocks and unwraps the `^` blocks, the loop pass
drops what `#` blocks there are then, and the value pass drops the plain markers. -/
theorem renderText_empty (source : Text) :
    renderText source .empty =
      replaceValues (fun _ => []) (replaceBlocks .hash (fun _ => [])
        (replaceBlocks .caret Block.body (replaceBlocks .hash (fun _ => []) source))) := rfl

section Empty

variable (source : Text)

theorem dropBlocks_sublist :
    (replaceBlocks .hash (fun _ => []) source).Sublist source :=
  replaceBlocks_sublist (fun _ => List.nil_sublist _) source

theorem unwrapBlocks_sublist :
    (replaceBlocks .caret Block.body source).Sublist source :=
  replaceBlocks_sublist (Block.body_sublist_text .caret) source

theorem renderText_empty_sublist_dropBlocks :
    (renderText source .empty).Sublist (replaceBlocks .hash (fun _ => []) source) := by
  rw [renderText_empty]
  exact (replaceValues_sublist (fun _ => rfl) _).trans
    ((dropBlocks_sublist _).trans (unwrapBlocks_sublist _))

/-- Rendering without bindings only takes characters away. -/
theorem renderText_empty_sublist : (renderText source .empty).Sublist source :=
  (renderText_empty_sublist_dropBlocks source).trans (dropBlocks_sublist source)

end Empty

/-! ## Nothing left to resolve -/

section Resolved

variable {source : Text}

/-- A rendering without bindings that gives the text back has found no block and no value. -/
theorem resolved_of_renderText_empty_eq_self (h : renderText source .empty = source) :
    source.IsValueFree ∧ Block.first? .hash source = none ∧
      Block.first? .caret source = none := by
  -- what is a sublist of the text and has the output as a sublist is the text
  have hdropped : replaceBlocks .hash (fun _ => []) source = source := by
    refine (dropBlocks_sublist source).antisymm ?_
    conv_lhs => rw [← h]
    exact renderText_empty_sublist_dropBlocks source
  have hafter : replaceValues (fun _ => []) (replaceBlocks .hash (fun _ => [])
      (replaceBlocks .caret Block.body source)) = source := by
    rw [renderText_empty, hdropped] at h
    exact h
  have hunwrapped : replaceBlocks .caret Block.body source = source := by
    refine (unwrapBlocks_sublist source).antisymm ?_
    conv_lhs => rw [← hafter]
    exact (replaceValues_sublist (fun _ => rfl) _).trans (dropBlocks_sublist _)
  have hfilled : fillValues (.ofContext .empty) source = source := by
    rw [hunwrapped, hdropped] at hafter
    exact hafter
  refine ⟨?_, ?_, ?_⟩
  · exact isValueFree_of_fillValues_eq_self (fun _ _ => List.not_mem_nil) hfilled
  · exact first?_eq_none_of_replaceBlocks_eq_self (fun _ => List.nil_sublist _)
      (Block.nil_ne_text .hash) hdropped
  · exact first?_eq_none_of_replaceBlocks_eq_self (Block.body_sublist_text .caret)
      (Block.body_ne_text .caret) hunwrapped

/-- A text that asks for no value and holds no block to be found comes out as it went in. -/
theorem renderText_eq_self_of_resolved (hvalue : source.IsValueFree)
    (hhash : Block.first? .hash source = none) (hcaret : Block.first? .caret source = none)
    (context : Context) : renderText source context = source := by
  rw [renderText, resolveSections, replaceBlocks_of_first?_eq_none hhash,
    replaceBlocks_of_first?_eq_none hcaret, expandLoops, replaceBlocks_of_first?_eq_none hhash,
    fillValues_eq_self _ hvalue]

end Resolved

/-- **The fixed points of rendering are the texts with nothing left to resolve.**  Without bindings
a rendering takes characters away and adds none; if it takes none away, no value is asked for and no
block is found, and then the text comes out of every rendering as it went in. -/
theorem renderText_eq_self_tfae (source : Text) :
    ((renderText source .empty).Sublist source ∧
      Text.utf8Size (renderText source .empty) ≤ Text.utf8Size source) ∧
    [renderText source .empty = source,
      source.IsValueFree ∧ Block.firstFrom? source 0 .hash = none ∧
        Block.firstFrom? source 0 .caret = none,
      ∀ context, renderText source context = source].TFAE := by
  have hsublist := renderText_empty_sublist source
  refine ⟨⟨hsublist, Text.utf8Size_le_of_sublist hsublist⟩, ?_⟩
  rw [Block.firstFrom?_zero_eq_none_iff, Block.firstFrom?_zero_eq_none_iff]
  tfae_have 1 → 2 := resolved_of_renderText_empty_eq_self
  tfae_have 2 → 3 := by
    rintro ⟨hvalue, hhash, hcaret⟩ context
    exact renderText_eq_self_of_resolved hvalue hhash hcaret context
  tfae_have 3 → 1 := fun hall => hall .empty
  tfae_finish

/-- Openings that nothing closes, a closing marker out of place and half a marker come out as they
went in. -/
example :
    renderText "\x7b\x7b#A\x7d\x7d\x7b\x7b^B\x7d\x7dx\x7b\x7b/C\x7d\x7d\x7b\x7b\x7bD".toList
        .empty =
      "\x7b\x7b#A\x7d\x7d\x7b\x7b^B\x7d\x7dx\x7b\x7b/C\x7d\x7d\x7b\x7b\x7bD".toList := by
  decide +kernel

end Template

end Invoicing
