import Invoicing.Marker.Scan
import Mathlib.Data.List.Infix

/-!
# Where the markers of a text stand

The scanner restarts behind every malformed brace, so it is not obvious that joining
texts joins their markers.  It does at every marker: the braces of a marker stand at
its two ends only, so a marker that starts before another one ends before it as well
(`Marker.exists_eq_text_append`).  Cutting a text at a marker therefore cuts its
tokens there:

* `tokens_append_text`: the tokens of `before ++ marker ++ rest` are those of
  `before`, the marker, and those of `rest`;
* `mem_markersOf_iff`: a marker is found exactly when its written form stands
  somewhere in the text.

Between texts that are not cut at a marker the same holds when the first one is settled
before the second: what follows completes no marker in it (`Text.IsSettledBefore`).  A text
is settled before every other one (`Text.IsSettled`) when it holds no `{{` and does not end
in `{` (`Text.IsTidy`).
-/

namespace Invoicing

namespace Marker

/-! ## Two markers do not overlap -/

/-- What stands in a marker after its two opening braces. -/
def inner (marker : Marker) : Text := marker.sigil.text ++ (marker.name ++ closing)

theorem text_eq_cons (marker : Marker) : marker.text = '{' :: '{' :: marker.inner := rfl

theorem text_append_eq_cons (marker : Marker) (rest : Text) :
    marker.text ++ rest = '{' :: '{' :: (marker.inner ++ rest) := rfl

theorem openBrace_notMem_inner {marker : Marker} (hname : IsName marker.name) :
    '{' ∉ marker.inner := by
  intro hmem
  simp only [inner, List.mem_append] at hmem
  rcases hmem with hmem | hmem | hmem
  · cases hsigil : marker.sigil <;> simp [hsigil, Sigil.text] at hmem
  · have := hname.2 _ hmem
    simp [isNameChar_openBrace] at this
  · simp [closing] at hmem

theorem count_text {marker : Marker} (hname : IsName marker.name) : marker.text.count '{' = 2 := by
  have hinner := List.count_eq_zero.mpr (openBrace_notMem_inner hname)
  simp [text_eq_cons, hinner]

theorem inner_ne_nil (marker : Marker) : marker.inner ≠ [] := by
  simp [inner, closing]

/-- A marker that starts before another one lies before it altogether. -/
theorem exists_eq_text_append {first : Marker} (second : Marker) (hfirst : IsName first.name)
    {before rest after : Text} (hbefore : before ≠ [])
    (h : before ++ (second.text ++ rest) = first.text ++ after) :
    ∃ tail, before = first.text ++ tail := by
  rcases List.append_eq_append_iff.mp h with ⟨overlap, htext, hrest⟩ | ⟨tail, htail, -⟩
  · have hbrace := openBrace_notMem_inner hfirst
    match before, hbefore with
    | [head], _ =>
        -- the second marker would start at the second brace of the first one
        simp only [text_eq_cons, List.cons_append, List.nil_append, List.cons.injEq] at htext hrest
        obtain ⟨-, rfl⟩ := htext
        simp only [List.cons_append, List.cons.injEq, true_and] at hrest
        obtain ⟨char, tail, hinner⟩ := List.exists_cons_of_ne_nil (inner_ne_nil first)
        rw [hinner] at hrest hbrace
        simp only [List.cons_append, List.cons.injEq] at hrest
        exact absurd (hrest.1 ▸ List.mem_cons_self ..) hbrace
    | head :: next :: tail, _ =>
        simp only [text_eq_cons, List.cons_append, List.cons.injEq] at htext
        obtain ⟨rfl, rfl, hinner⟩ := htext
        -- past its two braces the first marker holds no further one to start the second at
        cases overlap with
        | nil => exact ⟨[], by simp [text_eq_cons, hinner]⟩
        | cons char more =>
            have hchar : char = '{' := by
              simp only [text_eq_cons, List.cons_append, List.cons.injEq] at hrest
              exact hrest.1.symm
            rw [hinner, hchar] at hbrace
            simp at hbrace
  · exact ⟨tail, htail⟩

/-- A marker that starts no later than another one is that one or lies before it altogether. -/
theorem eq_or_exists_eq_text_append {first second : Marker} (hfirst : IsName first.name)
    (hsecond : IsName second.name) {before rest after : Text}
    (h : before ++ (second.text ++ rest) = first.text ++ after) :
    (before = [] ∧ second = first ∧ rest = after) ∨ ∃ tail, before = first.text ++ tail := by
  cases before with
  | nil =>
      -- both are read from the same place
      have hread := read?_text_append hsecond rest
      rw [List.nil_append] at h
      rw [h, read?_text_append hfirst, Option.some.injEq, Prod.mk.injEq] at hread
      exact Or.inl ⟨rfl, hread.1.symm, hread.2.symm⟩
  | cons head tail =>
      exact Or.inr (exists_eq_text_append second hfirst (List.cons_ne_nil head tail) h)

/-! ## The first marker of a joined text -/

/-- A marker is read from the start of a text whatever follows it. -/
theorem read?_append {source after : Text} {marker : Marker}
    (h : read? source = some (marker, after)) (rest : Text) :
    read? (source ++ rest) = some (marker, after ++ rest) := by
  obtain ⟨hsource, hname⟩ := read?_eq_some_iff.mp h
  rw [hsource, List.append_assoc]
  exact read?_text_append hname _

theorem first?_text_append {marker : Marker} (hname : IsName marker.name) (rest : Text) :
    first? (marker.text ++ rest) = some ⟨[], marker, rest⟩ := by
  have hread : read? (marker.text ++ rest) = some (marker, rest) := read?_text_append hname rest
  rw [text_append_eq_cons] at hread ⊢
  simp [first?, hread]

theorem first?_cons_eq_none_iff {head : Char} {rest : Text} :
    first? (head :: rest) = none ↔ read? (head :: rest) = none ∧ first? rest = none := by
  simp only [first?]
  split <;> simp_all

/-- No text in front of a marker completes a marker that it does not hold itself. -/
theorem read?_append_text_eq_none {before : Text} (hbefore : before ≠ [])
    (h : read? before = none) (marker : Marker) (rest : Text) :
    read? (before ++ (marker.text ++ rest)) = none := by
  cases hread : read? (before ++ (marker.text ++ rest)) with
  | none => rfl
  | some result =>
      obtain ⟨earlier, after⟩ := result
      obtain ⟨hsource, hname⟩ := read?_eq_some_iff.mp hread
      obtain ⟨tail, htail⟩ := exists_eq_text_append marker hname hbefore hsource
      rw [htail, read?_text_append hname] at h
      simp at h

/-- Behind a text without markers, the next marker is the first one. -/
theorem first?_append_text {before : Text} (h : first? before = none) {marker : Marker}
    (hname : IsName marker.name) (rest : Text) :
    first? (before ++ (marker.text ++ rest)) = some ⟨before, marker, rest⟩ := by
  induction before with
  | nil => exact first?_text_append hname rest
  | cons head tail ih =>
      obtain ⟨hread, htail⟩ := first?_cons_eq_none_iff.mp h
      have hnone := read?_append_text_eq_none (List.cons_ne_nil head tail) hread marker rest
      simp only [List.cons_append] at hnone ⊢
      simp [first?, hnone, ih htail]

/-- No marker starts before the first one. -/
theorem first?_before_eq_none {source : Text} {found : Occurrence}
    (h : first? source = some found) : first? found.before = none := by
  induction source generalizing found with
  | nil => simp [first?] at h
  | cons head rest ih =>
      simp only [first?] at h
      split at h
      · obtain rfl : _ = found := by simpa using h
        rfl
      · next hread =>
          simp only [Option.map_eq_some_iff] at h
          obtain ⟨inner, hinner, rfl⟩ := h
          refine first?_cons_eq_none_iff.mpr ⟨?_, ih hinner⟩
          -- a marker that ends before the found one would be read from the whole text as well
          cases hshort : read? (head :: inner.before) with
          | none => rfl
          | some result =>
              have hsource := (eq_of_first? hinner).1
              have hlong := read?_append hshort (inner.marker.text ++ inner.after)
              rw [List.cons_append, ← hsource, hread] at hlong
              simp at hlong

/-- The first marker of a text is also the first one of every longer text. -/
theorem first?_append {source : Text} {found : Occurrence} (h : first? source = some found)
    (rest : Text) :
    first? (source ++ rest) = some { found with after := found.after ++ rest } := by
  obtain ⟨hsource, hname⟩ := eq_of_first? h
  have hbefore := first?_before_eq_none h
  conv_lhs => rw [hsource]
  simp only [List.append_assoc]
  exact first?_append_text hbefore hname _

end Marker

/-! ## The tokens of a joined text -/

/-- The tokens of a text that is cut at a marker. -/
theorem tokens_append_text (before : Text) {marker : Marker} (hname : Marker.IsName marker.name)
    (rest : Text) :
    tokens (before ++ (marker.text ++ rest)) = tokens before ++ .mark marker :: tokens rest := by
  fun_induction tokens before with
  | case1 before hnone =>
      rw [tokens_of_first?_eq_some (Marker.first?_append_text hnone hname rest)]
      rfl
  | case2 before found hfound ih =>
      rw [tokens_of_first?_eq_some (Marker.first?_append hfound _), ih]
      rfl

theorem tokens_literal_append {before : Text} (h : Marker.first? before = none) {marker : Marker}
    (hname : Marker.IsName marker.name) (rest : Text) :
    tokens (before ++ (marker.text ++ rest)) = .literal before :: .mark marker :: tokens rest := by
  rw [tokens_append_text before hname, tokens_of_first?_eq_none h]
  rfl

@[simp] theorem tokens_nil : tokens [] = [.literal []] := tokens_of_first?_eq_none rfl

/-- The marker of a token. -/
def Token.marker? : Token → Option Marker
  | .literal _ => none
  | .mark marker => some marker

/-- The markers of a text in order. -/
def markersOf (source : Text) : List Marker := (tokens source).filterMap Token.marker?

theorem markersOf_of_first?_eq_none {source : Text} (h : Marker.first? source = none) :
    markersOf source = [] := by
  rw [markersOf, tokens_of_first?_eq_none h]
  rfl

theorem markersOf_of_first?_eq_some {source : Text} {found : Marker.Occurrence}
    (h : Marker.first? source = some found) :
    markersOf source = found.marker :: markersOf found.after := by
  rw [markersOf, tokens_of_first?_eq_some h]
  rfl

@[simp] theorem markersOf_nil : markersOf [] = [] := markersOf_of_first?_eq_none rfl

theorem markersOf_append_text (before : Text) {marker : Marker}
    (hname : Marker.IsName marker.name) (rest : Text) :
    markersOf (before ++ (marker.text ++ rest)) = markersOf before ++ marker :: markersOf rest := by
  simp [markersOf, tokens_append_text before hname, Token.marker?]

theorem markersOf_text_append {marker : Marker} (hname : Marker.IsName marker.name) (rest : Text) :
    markersOf (marker.text ++ rest) = marker :: markersOf rest := by
  simpa using markersOf_append_text [] hname rest

theorem isName_of_mem_tokens {source : Text} {marker : Marker} (h : .mark marker ∈ tokens source) :
    Marker.IsName marker.name := by
  fun_induction tokens source with
  | case1 => simp at h
  | case2 source found hfound ih =>
      simp only [List.mem_cons, reduceCtorEq, Token.mark.injEq, false_or] at h
      rcases h with rfl | h
      · exact (Marker.eq_of_first? hfound).2
      · exact ih h

theorem mem_filterMap_marker? {parts : List Token} {marker : Marker} :
    marker ∈ parts.filterMap Token.marker? ↔ .mark marker ∈ parts := by
  simp only [List.mem_filterMap]
  constructor
  · rintro ⟨token, htoken, hmarker⟩
    cases token with
    | literal text => simp [Token.marker?] at hmarker
    | mark found =>
        obtain rfl : found = marker := by simpa [Token.marker?] using hmarker
        exact htoken
  · intro h
    exact ⟨_, h, rfl⟩

theorem mem_markersOf {source : Text} {marker : Marker} :
    marker ∈ markersOf source ↔ .mark marker ∈ tokens source :=
  mem_filterMap_marker?

/-- The markers that the scanner finds are those whose written form stands in the text. -/
theorem mem_markersOf_iff {source : Text} {marker : Marker} :
    marker ∈ markersOf source ↔ Marker.IsName marker.name ∧ marker.text <:+: source := by
  constructor
  · intro h
    have htoken := mem_markersOf.mp h
    obtain ⟨before, after, hsplit⟩ := List.append_of_mem htoken
    refine ⟨isName_of_mem_tokens htoken, before.flatMap Token.text, after.flatMap Token.text, ?_⟩
    rw [← flatMap_text_tokens source, hsplit]
    simp [Token.text]
  · rintro ⟨hname, before, after, rfl⟩
    rw [List.append_assoc, markersOf_append_text before hname]
    simp

/-- No marker that opens or closes a block stands anywhere in the text. -/
def Text.IsBlockFree (text : Text) : Prop :=
  ∀ marker : Marker, Marker.IsName marker.name → marker.sigil ≠ .plain → ¬ marker.text <:+: text

/-- No marker that asks for a value stands anywhere in the text. -/
def Text.IsValueFree (text : Text) : Prop :=
  ∀ marker : Marker, Marker.IsName marker.name → marker.sigil = .plain → ¬ marker.text <:+: text

theorem Text.isBlockFree_iff {text : Text} :
    text.IsBlockFree ↔ ∀ marker ∈ markersOf text, marker.sigil = .plain := by
  simp only [IsBlockFree, mem_markersOf_iff]
  grind

instance (text : Text) : Decidable text.IsBlockFree :=
  decidable_of_iff _ Text.isBlockFree_iff.symm

theorem Text.isValueFree_iff {text : Text} :
    text.IsValueFree ↔ ∀ marker ∈ markersOf text, marker.sigil ≠ .plain := by
  simp only [IsValueFree, mem_markersOf_iff]
  grind

/-! ## Settled texts -/

/-- A text is settled when no marker starts in it, whatever text follows. -/
def Text.IsSettled (text : Text) : Prop :=
  ∀ suffix, suffix <:+ text → suffix ≠ [] → ∀ rest, Marker.read? (suffix ++ rest) = none

/-- A text is tidy when it holds no two opening braces in a row and does not end in one. -/
def Text.IsTidy (text : Text) : Prop := ¬ Marker.opening <:+: text ∧ ¬ ['{'] <:+ text

instance (text : Text) : Decidable text.IsTidy := inferInstanceAs (Decidable (_ ∧ _))

namespace Text

/-- No marker starts in a text when this one follows it. -/
def IsSettledBefore (text rest : Text) : Prop :=
  ∀ suffix, suffix <:+ text → suffix ≠ [] → Marker.read? (suffix ++ rest) = none

theorem IsSettled.before {text : Text} (h : IsSettled text) (rest : Text) :
    IsSettledBefore text rest :=
  fun suffix hsuffix hne => h suffix hsuffix hne rest

theorem IsSettledBefore.of_cons {head : Char} {tail rest : Text}
    (h : IsSettledBefore (head :: tail) rest) : IsSettledBefore tail rest :=
  fun suffix hsuffix => h suffix (hsuffix.trans (List.suffix_cons head tail))

theorem read?_suffix_eq_none {text suffix : Text} (h : Marker.first? text = none)
    (hsuffix : suffix <:+ text) : Marker.read? suffix = none := by
  induction text with
  | nil =>
      rw [List.suffix_nil.mp hsuffix]
      rfl
  | cons head tail ih =>
      obtain ⟨hread, htail⟩ := Marker.first?_cons_eq_none_iff.mp h
      rcases List.suffix_cons_iff.mp hsuffix with rfl | hsuffix
      · exact hread
      · exact ih htail hsuffix

/-- A text without markers is settled before every marker. -/
theorem isSettledBefore_text {text : Text} (h : Marker.first? text = none) (marker : Marker)
    (rest : Text) : IsSettledBefore text (marker.text ++ rest) := by
  intro suffix hsuffix hne
  have hread : Marker.read? suffix = none := read?_suffix_eq_none h hsuffix
  exact Marker.read?_append_text_eq_none hne hread marker rest

/-- An opening brace of a tidy text is followed by something else. -/
theorem IsTidy.exists_of_openBrace {rest : Text} (h : IsTidy ('{' :: rest)) :
    ∃ next more, rest = next :: more ∧ next ≠ '{' := by
  cases rest with
  | nil => exact absurd (List.suffix_refl _) h.2
  | cons next more =>
      refine ⟨next, more, rfl, ?_⟩
      rintro rfl
      exact h.1 (List.prefix_append ['{', '{'] more).isInfix

/-- Nothing that follows a tidy text completes a marker in it. -/
theorem IsTidy.isSettled {text : Text} (h : IsTidy text) : IsSettled text := by
  intro suffix hsuffix hne rest
  have htidy : IsTidy suffix :=
    ⟨fun hbraces => h.1 (hbraces.trans hsuffix.isInfix), fun hends => h.2 (hends.trans hsuffix)⟩
  cases hread : Marker.read? (suffix ++ rest) with
  | none => rfl
  | some result =>
      obtain ⟨marker, after⟩ := result
      obtain ⟨hsource, -⟩ := Marker.read?_eq_some_iff.mp hread
      obtain ⟨head, tail, rfl⟩ := List.exists_cons_of_ne_nil hne
      simp only [Marker.text_append_eq_cons, List.cons_append, List.cons.injEq] at hsource
      obtain ⟨rfl, hsource⟩ := hsource
      obtain ⟨next, more, rfl, hnext⟩ := htidy.exists_of_openBrace
      simp only [List.cons_append, List.cons.injEq] at hsource
      exact absurd hsource.1 hnext

theorem isTidy_of_notMem {text : Text} (h : '{' ∉ text) : text.IsTidy := by
  refine ⟨fun hbraces => ?_, fun hends => ?_⟩
  · exact h (hbraces.subset (by simp [Marker.opening]))
  · exact h (hends.subset (by simp))

/-- A text without opening braces is settled. -/
theorem isSettled_of_notMem {text : Text} (h : '{' ∉ text) : text.IsSettled :=
  (isTidy_of_notMem h).isSettled

/-- No two braces meet where a tidy text ends. -/
theorem IsTidy.append {first second : Text} (hfirst : IsTidy first) (hsecond : IsTidy second) :
    IsTidy (first ++ second) := by
  constructor
  · intro hbraces
    rcases List.infix_append_iff.mp hbraces with hbraces | hbraces | ⟨left, right, hsplit, hleft, hright⟩
    · exact hfirst.1 hbraces
    · exact hsecond.1 hbraces
    · match left with
      | [] => exact hsecond.1 (hsplit ▸ hright.isInfix)
      | [brace] =>
          obtain ⟨rfl, -⟩ := List.cons.inj hsplit
          exact hfirst.2 hleft
      | brace :: next :: more =>
          obtain ⟨-, hnext⟩ := List.cons.inj hsplit
          obtain ⟨rfl, hmore⟩ := List.cons.inj hnext
          obtain rfl : more = [] := (List.append_eq_nil_iff.mp hmore.symm).1
          exact hfirst.2 ((List.suffix_cons brace ['{']).trans hleft)
  · intro hends
    rw [List.singleton_suffix_iff_getLast?_eq_some, List.getLast?_append] at hends
    cases hlast : second.getLast? with
    | some last =>
        rw [hlast, Option.some_or] at hends
        exact hsecond.2 (List.singleton_suffix_iff_getLast?_eq_some.mpr (hlast.trans hends))
    | none =>
        rw [hlast, Option.none_or] at hends
        exact hfirst.2 (List.singleton_suffix_iff_getLast?_eq_some.mpr hends)

theorem isTidy_flatMap {Part : Type*} {parts : List Part} {written : Part → Text}
    (h : ∀ part ∈ parts, IsTidy (written part)) : IsTidy (parts.flatMap written) := by
  induction parts with
  | nil => exact isTidy_of_notMem List.not_mem_nil
  | cons part rest ih =>
      obtain ⟨hpart, hrest⟩ := List.forall_mem_cons.mp h
      exact hpart.append (ih hrest)

end Text

/-- Scanning passes a text that is settled before the rest. -/
theorem Marker.first?_append_of_isSettledBefore {text rest : Text}
    (h : text.IsSettledBefore rest) :
    first? (text ++ rest) = (first? rest).map fun found =>
      { found with before := text ++ found.before } := by
  induction text with
  | nil => simp
  | cons head tail ih =>
      have hnone := h _ (List.suffix_refl _) (List.cons_ne_nil head tail)
      simp only [List.cons_append] at hnone ⊢
      simp [first?, hnone, ih h.of_cons, Function.comp_def]

/-- A text that is settled before the rest adds no marker to it. -/
theorem markersOf_append_of_isSettledBefore {text rest : Text} (h : text.IsSettledBefore rest) :
    markersOf (text ++ rest) = markersOf rest := by
  have hfirst := Marker.first?_append_of_isSettledBefore h
  cases hrest : Marker.first? rest with
  | none =>
      rw [hrest, Option.map_none] at hfirst
      rw [markersOf_of_first?_eq_none hfirst, markersOf_of_first?_eq_none hrest]
  | some found =>
      rw [hrest, Option.map_some] at hfirst
      rw [markersOf_of_first?_eq_some hfirst, markersOf_of_first?_eq_some hrest]

end Invoicing
