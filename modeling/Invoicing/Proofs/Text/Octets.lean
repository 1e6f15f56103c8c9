import Invoicing.Text.Sorted
import Mathlib.Data.List.Basic
import Mathlib.Tactic.SplitIfs

/-!
# Texts in the order of their octets

Names are kept in the order of their code points, and stored names in the order of their UTF-8
octets.  The orders are one (`Text.octets_lt_octets_iff`), since the octets of a character say how
many they are in the first one, and then give its code point from the highest bits on.
-/

namespace Invoicing.Text

/-- The UTF-8 form of a text. -/
def octets (text : Text) : List UInt8 := text.flatMap String.utf8EncodeChar

theorem octets_cons (char : Char) (rest : Text) :
    octets (char :: rest) = String.utf8EncodeChar char ++ octets rest :=
  List.flatMap_cons

theorem cons_ofNat_lt_cons_iff {first second : Nat} (hfirst : first < 256) (hsecond : second < 256)
    {restFirst restSecond : List UInt8} :
    UInt8.ofNat first :: restFirst < UInt8.ofNat second :: restSecond ↔
      first < second ∨ first = second ∧ restFirst < restSecond := by
  rw [List.cons_lt_cons_iff, UInt8.lt_iff_toNat_lt, ← UInt8.toNat_inj,
    UInt8.toNat_ofNat_of_lt' hfirst, UInt8.toNat_ofNat_of_lt' hsecond]

theorem codePoint_lt (char : Char) : char.toNat < 0x110000 := by
  rcases char.valid with hlow | ⟨-, hhigh⟩
  · exact Nat.lt_trans hlow (by decide)
  · exact hhigh

/-- Two characters are told apart by their octets, whatever octets follow. -/
theorem utf8EncodeChar_append_lt {first second : Char} (h : first < second)
    (restFirst restSecond : List UInt8) :
    String.utf8EncodeChar first ++ restFirst < String.utf8EncodeChar second ++ restSecond := by
  have hlt : first.toNat < second.toNat := h
  have hfirst := codePoint_lt first
  have hsecond := codePoint_lt second
  simp only [String.utf8EncodeChar, Char.toNat_val]
  generalize first.toNat = low at *
  generalize second.toNat = high at *
  -- the octets are the digits of the code point to base 64
  have hdigits : ∀ number : Nat, number / 4096 = number / 64 / 64 ∧
      number / 262144 = number / 64 / 64 / 64 := by
    intro number
    omega
  simp only [hdigits]
  split_ifs <;>
    simp (disch := omega) only [List.cons_append, List.nil_append, cons_ofNat_lt_cons_iff] <;> omega

theorem octets_cons_ne_nil (head : Char) (rest : Text) : octets (head :: rest) ≠ [] := by
  have hpos : 0 < (String.utf8EncodeChar head).length := by
    rw [String.length_utf8EncodeChar]
    exact head.utf8Size_pos
  rw [octets_cons]
  exact List.append_ne_nil_of_left_ne_nil (List.ne_nil_of_length_pos hpos) _

theorem octets_lt_octets {first second : Text} (h : first < second) :
    octets first < octets second := by
  induction first generalizing second with
  | nil =>
      cases second with
      | nil => exact absurd h (List.not_lt_nil _)
      | cons head rest =>
          obtain ⟨octet, more, hoctets⟩ := List.exists_cons_of_ne_nil (octets_cons_ne_nil head rest)
          rw [hoctets]
          exact List.nil_lt_cons octet more
  | cons head rest ih =>
      cases second with
      | nil => exact absurd h (List.not_lt_nil _)
      | cons other more =>
          rw [octets_cons, octets_cons]
          rcases List.cons_lt_cons_iff.mp h with hhead | ⟨rfl, hrest⟩
          · exact utf8EncodeChar_append_lt hhead _ _
          · exact List.append_left_lt (ih hrest)

/-- **The order of texts is the order of their octets.** -/
theorem octets_lt_octets_iff {first second : Text} :
    octets first < octets second ↔ first < second := by
  refine ⟨fun h => ?_, octets_lt_octets⟩
  by_contra hlt
  rcases eq_or_ne first second with rfl | hne
  · exact List.lt_irrefl _ h
  · exact List.lt_asymm h (octets_lt_octets (lt_of_not_lt_of_ne hlt hne))

end Invoicing.Text
