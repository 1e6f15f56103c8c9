import Invoicing.Proofs.Template.Reading
import Invoicing.Template.Passes

/-!
# The passes on the tokens of a template

A template that is not well nested has no tree, but it still has tokens.  Each pass of the
renderer has its counterpart on lists of tokens, and writing down what the counterpart leaves
gives the text that the pass leaves (`Parts.resolveSections_source_append`,
`Parts.expandLoops_source_append`).

Every pass cuts the text that it gets into tokens afresh.  It finds the tokens that the pass
before it has left when no marker has come up at a literal in the meantime.  That is so when a
literal is settled, and also when a plain marker follows it directly: no sweep takes such a
marker away, so the braces at the end of the literal never meet other ones
(`Parts.IsSteady`).  The text behind the last marker never meets anything and is kept apart,
as `last`.
-/

namespace Invoicing

namespace Parts

/-- Tokens as they are written, one after another. -/
def source (parts : List Token) : Text := parts.flatMap Token.text

/-- The tokens of a block. -/
def block (sigil : Sigil) (name : Text) (body : List Token) : List Token :=
  .mark ⟨sigil, name⟩ :: (body ++ [.mark ⟨.slash, name⟩])

/-- No marker comes up at a literal, even when blocks are taken out. -/
def IsSteady : List Token → Prop
  | [] => True
  | .mark marker :: rest => Marker.IsName marker.name ∧ IsSteady rest
  | .literal content :: rest =>
      (content.IsSettled ∨ Marker.first? content = none ∧
        ∃ name more, rest = .mark ⟨.plain, name⟩ :: more) ∧ IsSteady rest

/-- The body of the block that a marker opens, and the tokens after that block. -/
def bodyAfter? (sigil : Sigil) (marker : Marker) (rest : List Token) :
    Option (List Token × List Token) :=
  if marker.sigil = sigil then splitAtClosing? marker.name rest else none

section BodyAfter

variable {sigil : Sigil} {marker : Marker} {rest body after : List Token}

theorem eq_of_bodyAfter? (h : bodyAfter? sigil marker rest = some (body, after)) :
    .mark marker :: rest = block sigil marker.name body ++ after ∧
      .mark ⟨.slash, marker.name⟩ ∉ body := by
  unfold bodyAfter? at h
  split at h
  · next hsigil =>
      obtain ⟨hrest, hbody⟩ := eq_of_splitAtClosing? h
      refine ⟨?_, hbody⟩
      rw [hrest, block, ← hsigil]
      simp
  · simp at h

theorem length_lt_of_bodyAfter? (h : bodyAfter? sigil marker rest = some (body, after)) :
    after.length < (Token.mark marker :: rest).length := by
  rw [(eq_of_bodyAfter? h).1, block]
  simp only [List.length_append, List.length_cons]
  omega

theorem ne_or_notMem_of_bodyAfter? (h : bodyAfter? sigil marker rest = none) :
    marker.sigil ≠ sigil ∨ .mark ⟨.slash, marker.name⟩ ∉ rest := by
  unfold bodyAfter? at h
  split at h
  · exact Or.inr (notMem_of_splitAtClosing? h)
  · next hsigil => exact Or.inl hsigil

theorem bodyAfter?_eq_none (h : marker.sigil ≠ sigil) : bodyAfter? sigil marker rest = none :=
  if_neg h

end BodyAfter

/-- The blocks of a sign, replaced from left to right. -/
def sweep (sigil : Sigil) (replacement : Text → List Token → List Token) :
    List Token → List Token
  | [] => []
  | .literal content :: rest => .literal content :: sweep sigil replacement rest
  | .mark marker :: rest =>
      match _hbody : bodyAfter? sigil marker rest with
      | some (body, after) => replacement marker.name body ++ sweep sigil replacement after
      | none => .mark marker :: sweep sigil replacement rest
termination_by parts => parts.length
decreasing_by
  · exact Nat.lt_succ_self _
  · exact length_lt_of_bodyAfter? _hbody
  · exact Nat.lt_succ_self _

theorem sweep_of_bodyAfter?_eq_some {sigil : Sigil} {marker : Marker}
    {rest body after : List Token} (h : bodyAfter? sigil marker rest = some (body, after))
    (replacement : Text → List Token → List Token) :
    sweep sigil replacement (.mark marker :: rest) =
      replacement marker.name body ++ sweep sigil replacement after := by
  rw [sweep]
  split <;> simp_all

theorem sweep_of_bodyAfter?_eq_none {sigil : Sigil} {marker : Marker} {rest : List Token}
    (h : bodyAfter? sigil marker rest = none) (replacement : Text → List Token → List Token) :
    sweep sigil replacement (.mark marker :: rest) =
      .mark marker :: sweep sigil replacement rest := by
  rw [sweep]
  split <;> simp_all

/-- The plain markers, replaced by literals. -/
def fill (value : Text → Text) (parts : List Token) : List Token :=
  parts.map fun
    | .literal content => .literal content
    | .mark marker => if marker.sigil = .plain then .literal (value marker.name) else .mark marker

/-! ## The tokens of a written list -/

@[simp] theorem source_nil : source [] = [] := rfl

@[simp] theorem source_cons (token : Token) (rest : List Token) :
    source (token :: rest) = token.text ++ source rest := rfl

@[simp] theorem source_append (first second : List Token) :
    source (first ++ second) = source first ++ source second :=
  List.flatMap_append

theorem source_block (sigil : Sigil) (name : Text) (body : List Token) :
    source (block sigil name body) = Block.text sigil ⟨name, source body⟩ := by
  simp [block, Block.text, Block.closingText, Token.text]

section IsSteady

variable {sigil : Sigil} {marker : Marker} {name content : Text}
variable {parts first second body after rest : List Token}

theorem IsSteady.append (hfirst : IsSteady first) (hsecond : IsSteady second) :
    IsSteady (first ++ second) := by
  induction first with
  | nil => exact hsecond
  | cons token rest ih =>
      cases token with
      | mark marker => exact ⟨hfirst.1, ih hfirst.2⟩
      | literal content =>
          obtain ⟨hcontent, hrest⟩ := hfirst
          refine ⟨hcontent.imp_right ?_, ih hrest⟩
          rintro ⟨hnone, name, more, rfl⟩
          exact ⟨hnone, name, more ++ second, rfl⟩

/-- A list of tokens may be cut before a block marker. -/
theorem IsSteady.of_append_mark (hplain : marker.sigil ≠ .plain)
    (h : IsSteady (body ++ .mark marker :: after)) :
    IsSteady body ∧ IsSteady (.mark marker :: after) := by
  induction body with
  | nil => exact ⟨trivial, h⟩
  | cons token rest ih =>
      cases token with
      | mark other =>
          obtain ⟨hother, hrest⟩ := h
          obtain ⟨hbody, hafter⟩ := ih hrest
          exact ⟨⟨hother, hbody⟩, hafter⟩
      | literal content =>
          obtain ⟨hcontent, hrest⟩ := h
          obtain ⟨hbody, hafter⟩ := ih hrest
          refine ⟨⟨hcontent.imp_right ?_, hbody⟩, hafter⟩
          rintro ⟨hnone, name, more, hnext⟩
          cases rest with
          | nil =>
              -- the marker of the cut would have to be the plain one
              have hsame : Token.mark marker = .mark ⟨.plain, name⟩ := (List.cons.inj hnext).1
              exact absurd (congrArg Marker.sigil (Token.mark.inj hsame)) hplain
          | cons next rest =>
              have hsame : next = .mark ⟨.plain, name⟩ := (List.cons.inj hnext).1
              exact ⟨hnone, name, rest, by rw [hsame]⟩

theorem isSteady_block_append (h : IsSteady (block sigil name body ++ after)) :
    Marker.IsName name ∧ IsSteady body ∧ IsSteady after := by
  have hcut : block sigil name body ++ after =
      .mark ⟨sigil, name⟩ :: (body ++ .mark ⟨.slash, name⟩ :: after) := by
    simp [block]
  rw [hcut] at h
  obtain ⟨hname, hrest⟩ := h
  obtain ⟨hbody, hafter⟩ := IsSteady.of_append_mark Sigil.noConfusion hrest
  exact ⟨hname, hbody, hafter.2⟩

theorem isSteady_block (hname : Marker.IsName name) (hbody : IsSteady body) :
    IsSteady (block sigil name body) :=
  And.intro hname (hbody.append ⟨hname, trivial⟩)

/-- What follows a literal of a steady list completes no marker in it. -/
theorem IsSteady.isSettledBefore (h : IsSteady (.literal content :: rest)) (last : Text) :
    content.IsSettledBefore (source rest ++ last) := by
  obtain ⟨hsettled | ⟨hnone, name, more, rfl⟩, -⟩ := h
  · exact hsettled.before _
  · rw [source_cons, List.append_assoc]
    exact Text.isSettledBefore_text hnone _ _

theorem markersOf_source_append (h : IsSteady parts) (last : Text) :
    markersOf (source parts ++ last) = parts.filterMap Token.marker? ++ markersOf last := by
  induction parts with
  | nil => rfl
  | cons token rest ih =>
      cases token with
      | literal content =>
          rw [source_cons, List.append_assoc, Token.text,
            markersOf_append_of_isSettledBefore (h.isSettledBefore last), ih h.2]
          rfl
      | mark marker =>
          rw [source_cons, List.append_assoc, Token.text, markersOf_text_append h.1, ih h.2]
          rfl

/-- A closing marker that is not among the tokens does not stand in what they write. -/
theorem not_closingText_isInfix (h : IsSteady parts) {last : Text} (hlast : markersOf last = [])
    (hname : Marker.IsName name) (hclosing : .mark ⟨.slash, name⟩ ∉ parts) :
    ¬ Block.closingText name <:+: source parts ++ last := by
  intro hinfix
  have hmarker : ⟨.slash, name⟩ ∈ markersOf (source parts ++ last) :=
    mem_markersOf_iff.mpr ⟨hname, hinfix⟩
  rw [markersOf_source_append h, hlast, List.append_nil, mem_filterMap_marker?] at hmarker
  exact hclosing hmarker

end IsSteady

/-! ## A sweep over a written list -/

section Sweep

variable {sigil : Sigil} {parts : List Token}

/-- **A sweep over the written text is a sweep over the tokens.** -/
theorem replaceBlocks_source_append {replacement : Block → Text}
    {replaced : Text → List Token → List Token}
    (hreplacement : ∀ name body, IsSteady body →
      replacement ⟨name, source body⟩ = source (replaced name body))
    (h : IsSteady parts) {last : Text} (hlast : markersOf last = []) :
    replaceBlocks sigil replacement (source parts ++ last) =
      source (sweep sigil replaced parts) ++ last := by
  fun_induction sweep sigil replaced parts with
  | case1 => exact replaceBlocks_eq_self replacement (by simp [hlast])
  | case2 content rest ih =>
      rw [source_cons, source_cons, Token.text, List.append_assoc, List.append_assoc,
        replaceBlocks_append_of_isSettledBefore _ (h.isSettledBefore last), ih h.2]
  | case3 marker rest body after hbody ih =>
      obtain ⟨hparts, hclosing⟩ := eq_of_bodyAfter? hbody
      rw [hparts] at h
      obtain ⟨hname, hsteady, hafter⟩ := isSteady_block_append h
      have hinner : ¬ Block.closingText marker.name <:+: source body := by
        simpa using not_closingText_isInfix hsteady markersOf_nil hname hclosing
      rw [hparts, source_append, source_block, source_append, List.append_assoc,
        List.append_assoc, replaceBlocks_block_append _ hname hinner, ih hafter,
        hreplacement _ _ hsteady]
  | case4 marker rest hbody ih =>
      rw [source_cons, source_cons, Token.text, List.append_assoc, List.append_assoc]
      rcases ne_or_notMem_of_bodyAfter? hbody with hsigil | hclosing
      · rw [replaceBlocks_text_append _ h.1 hsigil, ih h.2]
      · have hinfix := not_closingText_isInfix h.2 hlast h.1 hclosing
        rw [replaceBlocks_text_append_of_not_isInfix _ h.1 hinfix, ih h.2]

variable {replaced other : Text → List Token → List Token}

/-- A sweep keeps a list of tokens steady when the replacements of its blocks are. -/
theorem isSteady_sweep (hplain : sigil ≠ .plain)
    (hreplaced : ∀ name body, (block sigil name body).Sublist parts → Marker.IsName name →
      IsSteady body → IsSteady (replaced name body))
    (h : IsSteady parts) : IsSteady (sweep sigil replaced parts) := by
  fun_induction sweep sigil replaced parts with
  | case1 => trivial
  | case2 content rest ih =>
      obtain ⟨hcontent, hrest⟩ := h
      refine ⟨hcontent.imp_right ?_, ?_⟩
      · rintro ⟨hnone, name, more, rfl⟩
        -- the plain marker behind the literal stays where it is
        have hbody : bodyAfter? sigil ⟨.plain, name⟩ more = none := bodyAfter?_eq_none hplain.symm
        exact ⟨hnone, name, _, sweep_of_bodyAfter?_eq_none hbody replaced⟩
      · exact ih (fun name body hblock => hreplaced name body (hblock.cons _)) hrest
  | case3 marker rest body after hbody ih =>
      obtain ⟨hparts, -⟩ := eq_of_bodyAfter? hbody
      rw [hparts] at h hreplaced
      obtain ⟨hname, hsteady, hafter⟩ := isSteady_block_append h
      have hfirst := hreplaced marker.name body (List.sublist_append_left _ _) hname hsteady
      refine hfirst.append (ih (fun name inner hblock => ?_) hafter)
      exact hreplaced name inner (hblock.trans (List.sublist_append_right _ _))
  | case4 marker rest hbody ih =>
      exact ⟨h.1, ih (fun name body hblock => hreplaced name body (hblock.cons _)) h.2⟩

/-- A sweep that keeps some tokens of each block keeps some tokens of the list. -/
theorem sweep_sublist
    (hreplaced : ∀ name body, (replaced name body).Sublist (block sigil name body)) :
    (sweep sigil replaced parts).Sublist parts := by
  fun_induction sweep sigil replaced parts with
  | case1 => exact List.Sublist.refl _
  | case2 content rest ih => exact ih.cons_cons _
  | case3 marker rest body after hbody ih =>
      rw [(eq_of_bodyAfter? hbody).1]
      exact (hreplaced marker.name body).append ih
  | case4 marker rest hbody ih => exact ih.cons_cons _

/-- A token of the result stood in the list before, or a replacement has brought it in. -/
theorem mem_or_exists_of_mem_sweep {token : Token} (h : token ∈ sweep sigil replaced parts) :
    token ∈ parts ∨
      ∃ name body, (block sigil name body).Sublist parts ∧ token ∈ replaced name body := by
  fun_induction sweep sigil replaced parts with
  | case1 => exact Or.inl h
  | case2 content rest ih =>
      rcases List.mem_cons.mp h with rfl | h
      · exact Or.inl (List.mem_cons_self ..)
      · refine (ih h).imp (List.mem_cons_of_mem _) ?_
        rintro ⟨name, body, hblock, htoken⟩
        exact ⟨name, body, hblock.cons _, htoken⟩
  | case3 marker rest body after hbody ih =>
      rw [(eq_of_bodyAfter? hbody).1]
      rcases List.mem_append.mp h with h | h
      · exact Or.inr ⟨marker.name, body, List.sublist_append_left _ _, h⟩
      · refine (ih h).imp (List.mem_append_right _) ?_
        rintro ⟨name, inner, hblock, htoken⟩
        exact ⟨name, inner, hblock.trans (List.sublist_append_right _ _), htoken⟩
  | case4 marker rest hbody ih =>
      rcases List.mem_cons.mp h with rfl | h
      · exact Or.inl (List.mem_cons_self ..)
      · refine (ih h).imp (List.mem_cons_of_mem _) ?_
        rintro ⟨name, body, hblock, htoken⟩
        exact ⟨name, body, hblock.cons _, htoken⟩

/-- What a sweep leaves depends on what it makes of the blocks of the list only. -/
theorem sweep_congr
    (h : ∀ name body, (block sigil name body).Sublist parts →
      replaced name body = other name body) :
    sweep sigil replaced parts = sweep sigil other parts := by
  fun_induction sweep sigil replaced parts with
  | case1 => rw [sweep]
  | case2 content rest ih =>
      rw [sweep, ih fun name body hblock => h name body (hblock.cons _)]
  | case3 marker rest body after hbody ih =>
      have hparts := (eq_of_bodyAfter? hbody).1
      have hsame : replaced marker.name body = other marker.name body :=
        h marker.name body (hparts ▸ List.sublist_append_left _ _)
      have hafter : sweep sigil replaced after = sweep sigil other after := by
        refine ih fun name inner hblock => h name inner ?_
        exact hparts ▸ hblock.trans (List.sublist_append_right _ _)
      rw [sweep_of_bodyAfter?_eq_some hbody, hsame, hafter]
  | case4 marker rest hbody ih =>
      have hrest : sweep sigil replaced rest = sweep sigil other rest :=
        ih fun name body hblock => h name body (hblock.cons _)
      rw [sweep_of_bodyAfter?_eq_none hbody, hrest]

end Sweep

/-! ## The passes -/

/-- What becomes of a `#` block in the section pass. -/
def keepOrDrop (scope : Scope) (name : Text) (body : List Token) : List Token :=
  match scope.lookup? name with
  | some (.sequence _) => block .hash name body
  | some (.scalar held) => if held.isTruthy then body else []
  | none => []

/-- What becomes of a `^` block in the section pass. -/
def keepUnlessTruthy (scope : Scope) (name : Text) (body : List Token) : List Token :=
  if scope.isTruthy name then [] else body

/-- The section pass. -/
def resolveSections (scope : Scope) (parts : List Token) : List Token :=
  sweep .caret (keepUnlessTruthy scope) (sweep .hash (keepOrDrop scope) parts)

/-- What becomes of a `#` block in the loop pass. -/
def repeatBody (scope : Scope) (name : Text) (body : List Token) : List Token :=
  match scope.lookup? name with
  | some (.sequence items) =>
      items.flatMap fun item =>
        fill (scope.push item).toText (resolveSections (scope.push item) body)
  | _ => []

/-- The loop pass. -/
def expandLoops (scope : Scope) (parts : List Token) : List Token :=
  sweep .hash (repeatBody scope) parts

section Passes

variable (scope : Scope) {name last : Text} {parts body : List Token}

theorem keepOrDrop_sublist : (keepOrDrop scope name body).Sublist (block .hash name body) := by
  have hbody : body.Sublist (block .hash name body) :=
    (List.sublist_append_left body _).cons _
  unfold keepOrDrop
  split
  · exact List.Sublist.refl _
  · split
    · exact hbody
    · exact List.nil_sublist _
  · exact List.nil_sublist _

theorem keepUnlessTruthy_sublist :
    (keepUnlessTruthy scope name body).Sublist (block .caret name body) := by
  unfold keepUnlessTruthy
  split
  · exact List.nil_sublist _
  · exact (List.sublist_append_left body _).cons _

/-- The section pass only takes tokens away. -/
theorem resolveSections_sublist : (resolveSections scope parts).Sublist parts :=
  (sweep_sublist fun _ _ => keepUnlessTruthy_sublist scope).trans
    (sweep_sublist fun _ _ => keepOrDrop_sublist scope)

theorem isSteady_keepOrDrop (hname : Marker.IsName name) (hbody : IsSteady body) :
    IsSteady (keepOrDrop scope name body) := by
  unfold keepOrDrop
  split
  · exact isSteady_block hname hbody
  · split
    · exact hbody
    · trivial
  · trivial

theorem isSteady_keepUnlessTruthy (hbody : IsSteady body) :
    IsSteady (keepUnlessTruthy scope name body) := by
  unfold keepUnlessTruthy
  split
  · trivial
  · exact hbody

theorem isSteady_sweep_keepOrDrop (h : IsSteady parts) :
    IsSteady (sweep .hash (keepOrDrop scope) parts) :=
  isSteady_sweep Sigil.noConfusion (fun _ _ _ => isSteady_keepOrDrop scope) h

theorem isSteady_resolveSections (h : IsSteady parts) : IsSteady (resolveSections scope parts) :=
  isSteady_sweep Sigil.noConfusion (fun _ _ _ _ => isSteady_keepUnlessTruthy scope)
    (isSteady_sweep_keepOrDrop scope h)

theorem keepOrDrop_source (name : Text) (body : List Token) :
    Template.keepOrDrop scope ⟨name, source body⟩ = source (keepOrDrop scope name body) := by
  unfold Template.keepOrDrop keepOrDrop
  cases scope.lookup? name with
  | none => rfl
  | some binding =>
      cases binding with
      | scalar held => cases hheld : held.isTruthy <;> simp [hheld]
      | sequence items => exact (source_block .hash name body).symm

theorem keepUnlessTruthy_source (name : Text) (body : List Token) :
    (if scope.isTruthy name then [] else source body) =
      source (keepUnlessTruthy scope name body) := by
  unfold keepUnlessTruthy
  split <;> rfl

theorem resolveSections_source_append (h : IsSteady parts) (hlast : markersOf last = []) :
    Template.resolveSections scope (source parts ++ last) =
      source (resolveSections scope parts) ++ last := by
  have hpositive : replaceBlocks .hash (Template.keepOrDrop scope) (source parts ++ last) =
      source (sweep .hash (keepOrDrop scope) parts) ++ last :=
    replaceBlocks_source_append (fun name body _ => keepOrDrop_source scope name body) h hlast
  rw [Template.resolveSections, hpositive]
  exact replaceBlocks_source_append (fun name body _ => keepUnlessTruthy_source scope name body)
    (isSteady_sweep_keepOrDrop scope h) hlast

theorem fillValues_source_append (h : IsSteady parts) (hlast : markersOf last = []) :
    Template.fillValues scope (source parts ++ last) =
      source (fill scope.toText parts) ++ last := by
  unfold Template.fillValues
  induction parts with
  | nil => exact replaceValues_eq_self scope.toText (by simp [hlast])
  | cons token rest ih =>
      cases token with
      | literal content =>
          rw [source_cons, Token.text, List.append_assoc,
            replaceValues_append_of_isSettledBefore _ (h.isSettledBefore last), ih h.2]
          simp [fill, Token.text]
      | mark marker =>
          rw [source_cons, Token.text, List.append_assoc,
            replaceValues_text_append _ h.1, ih h.2]
          by_cases hplain : marker.sigil = .plain <;> simp [fill, Token.text, hplain]

theorem repeatBody_source (name : Text) (hbody : IsSteady body) :
    Template.repeatBody scope ⟨name, source body⟩ = source (repeatBody scope name body) := by
  have hitem : ∀ item : Context,
      Template.fillValues (scope.push item)
        (Template.resolveSections (scope.push item) (source body)) =
      source (fill (scope.push item).toText (resolveSections (scope.push item) body)) := by
    intro item
    have hresolved := resolveSections_source_append (scope.push item) hbody markersOf_nil
    have hfilled := fillValues_source_append (scope.push item)
      (isSteady_resolveSections (scope.push item) hbody) markersOf_nil
    simp only [List.append_nil] at hresolved hfilled
    rw [hresolved, hfilled]
  unfold Template.repeatBody repeatBody
  cases scope.lookup? name with
  | none => rfl
  | some binding =>
      cases binding with
      | scalar held => rfl
      | sequence items =>
          show _ = (items.flatMap _).flatMap Token.text
          rw [List.flatMap_assoc]
          exact List.flatMap_congr fun item _ => hitem item

theorem expandLoops_source_append (h : IsSteady parts) (hlast : markersOf last = []) :
    Template.expandLoops scope (source parts ++ last) =
      source (expandLoops scope parts) ++ last :=
  replaceBlocks_source_append (fun name _ hbody => repeatBody_source scope name hbody) h hlast

/-- Up to the last pass, rendering a written list is running the passes on its tokens. -/
theorem renderText_source_append (context : Context) (h : IsSteady parts)
    (hlast : markersOf last = []) :
    let scope := Scope.ofContext context
    Template.renderText (source parts ++ last) context = Template.fillValues scope
      (source (expandLoops scope (resolveSections scope parts)) ++ last) := by
  intro scope
  have hresolved : IsSteady (resolveSections scope parts) := isSteady_resolveSections scope h
  rw [Template.renderText, resolveSections_source_append _ h hlast,
    expandLoops_source_append _ hresolved hlast]

end Passes

end Parts

end Invoicing
