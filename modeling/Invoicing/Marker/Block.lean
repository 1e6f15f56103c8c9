import Invoicing.Marker.Scan

/-!
# Blocks and their replacement

A block is an opening marker, a body, and the first closing marker of the same
name after it, whatever lies between.  An opening marker with no closing marker
after it opens no block and stays in the text.

`replaceBlocks` and `replaceValues` are the two substitutions that a template goes
through.  Both work from left to right and never look at what they have put in.
-/

namespace Invoicing

/-- A block of a template, without the sign that opens it. -/
structure Block where
  /-- The name on both of its markers. -/
  name : Text
  /-- The text between its markers. -/
  body : Text
  deriving DecidableEq, Repr

/-- The closing marker of a name, as it is written. -/
def Block.closingText (name : Text) : Text := (Marker.mk .slash name).text

/-- A block as it is written. -/
def Block.text (sigil : Sigil) (block : Block) : Text :=
  (Marker.mk sigil block.name).text ++ (block.body ++ Block.closingText block.name)

/-- A block found in a text, with the text around it. -/
structure Block.Occurrence where
  /-- The text before the block. -/
  before : Text
  /-- The block. -/
  block : Block
  /-- The text after the block. -/
  after : Text
  deriving DecidableEq, Repr

/-- The body of the block that a found marker opens, and the text after that block.
There is none when the marker has another sign, or when no closing marker of its
name follows. -/
def Block.bodyAfter? (sigil : Sigil) (opening : Marker.Occurrence) : Option (Text × Text) :=
  if opening.marker.sigil = sigil then
    Text.splitAtFirst? (Block.closingText opening.marker.name) opening.after
  else none

theorem Block.bodyAfter?_eq_some_iff {sigil : Sigil} {opening : Marker.Occurrence}
    {body after : Text} :
    Block.bodyAfter? sigil opening = some (body, after) ↔ opening.marker.sigil = sigil ∧
      Text.splitAtFirst? (Block.closingText opening.marker.name) opening.after =
        some (body, after) := by
  simp [Block.bodyAfter?]

/-- The first block that is opened by a marker of the given sign. -/
def Block.first? (sigil : Sigil) (source : Text) : Option Block.Occurrence :=
  match _hfirst : Marker.first? source with
  | none => none
  | some opening =>
      match Block.bodyAfter? sigil opening with
      | some (body, after) => some ⟨opening.before, ⟨opening.marker.name, body⟩, after⟩
      | none =>
          (Block.first? sigil opening.after).map fun inner =>
            { inner with before := opening.before ++ (opening.marker.text ++ inner.before) }
termination_by source.length
decreasing_by exact Marker.length_after_lt_of_first? _hfirst

/-- The text around a found block and the block make up the whole, and the block has
a proper name. -/
theorem Block.eq_of_first? {sigil : Sigil} {source : Text} {found : Block.Occurrence}
    (h : Block.first? sigil source = some found) :
    source = found.before ++ (found.block.text sigil ++ found.after) ∧
      Marker.IsName found.block.name := by
  fun_induction Block.first? sigil source generalizing found with
  | case1 => simp at h
  | case2 source opening hopening body after hbody =>
      obtain ⟨hsource, hname⟩ := Marker.eq_of_first? hopening
      obtain rfl : _ = found := by simpa using h
      obtain ⟨hsigil, hafter⟩ := Block.bodyAfter?_eq_some_iff.1 hbody
      refine ⟨?_, hname⟩
      rw [hsource, Text.append_of_splitAtFirst? hafter, ← hsigil]
      simp [Block.text]
  | case3 source opening hopening hbody ih =>
      obtain ⟨hsource, -⟩ := Marker.eq_of_first? hopening
      simp only [Option.map_eq_some_iff] at h
      obtain ⟨inner, hinner, rfl⟩ := h
      obtain ⟨hafter, hname⟩ := ih hinner
      refine ⟨?_, hname⟩
      rw [hsource, hafter]
      simp

/-- What follows a block is shorter than the whole. -/
theorem Block.length_after_lt_of_first? {sigil : Sigil} {source : Text}
    {found : Block.Occurrence} (h : Block.first? sigil source = some found) :
    found.after.length < source.length := by
  rw [(Block.eq_of_first? h).1]
  simp [Block.text, Marker.text, Marker.opening]
  omega

/-- The first block of a sign at or after a position, with its span.  A position
outside the text or inside a character finds nothing. -/
def Block.firstFrom? (source : Text) (offset : Nat) (sigil : Sigil) : Option (Block × Span) := do
  let rest ← Text.dropBytes? offset source
  let found ← Block.first? sigil rest
  let start := offset + Text.utf8Size found.before
  return (found.block, ⟨start, start + Text.utf8Size (found.block.text sigil)⟩)

/-- Every block of a sign is replaced, from left to right. -/
def replaceBlocks (sigil : Sigil) (replacement : Block → Text) (source : Text) : Text :=
  match _hfirst : Block.first? sigil source with
  | none => source
  | some found =>
      found.before ++ (replacement found.block ++ replaceBlocks sigil replacement found.after)
termination_by source.length
decreasing_by exact Block.length_after_lt_of_first? _hfirst

theorem replaceBlocks_of_first?_eq_none {sigil : Sigil} {source : Text}
    (h : Block.first? sigil source = none) (replacement : Block → Text) :
    replaceBlocks sigil replacement source = source := by
  rw [replaceBlocks]
  split <;> simp_all

theorem replaceBlocks_of_first?_eq_some {sigil : Sigil} {source : Text}
    {found : Block.Occurrence} (h : Block.first? sigil source = some found)
    (replacement : Block → Text) :
    replaceBlocks sigil replacement source =
      found.before ++ (replacement found.block ++ replaceBlocks sigil replacement found.after) := by
  rw [replaceBlocks]
  split <;> simp_all

/-- Every plain marker is replaced by the text for its name; all other markers, and
all text between markers, stay. -/
def replaceValues (value : Text → Text) (source : Text) : Text :=
  (tokens source).flatMap fun
    | .literal text => text
    | .mark marker => if marker.sigil = .plain then value marker.name else marker.text

end Invoicing
