import Invoicing.Text.Basic

/-!
# Classes of code points

A class of characters is given as a list of stretches of code points.
-/

namespace Invoicing.Text

/-- Whether a character lies in one of the stretches; both ends of a stretch belong
to it. -/
def inRanges (ranges : List (Nat × Nat)) (char : Char) : Bool :=
  ranges.any fun (first, last) => first ≤ char.toNat && char.toNat ≤ last

end Invoicing.Text
