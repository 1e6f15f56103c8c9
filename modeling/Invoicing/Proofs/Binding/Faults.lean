import Invoicing.Proofs.Binding.Documents
import Invoicing.Proofs.Text.Octets
import Mathlib.Data.List.Lex

/-!
# What is wrong with a document

A document is a context, or it holds something that has no binding.  `Context.ofJson_exact` says
which of the two, what is bound, and for a document that is no context that the error is the one at
the first fault.

What is first is a matter of ways through the document.  A way is a list of steps into members and
items (`Json.Step`), and `Json.faultAt?` says what is wrong with the value at its end.  One way is
before another when it ends earlier or takes an earlier step where they part, members by the octets
of their names and items by their places.

## Strategy

* The first part that fails decides (`Judges.mapM`).  The order of the steps is what makes the first
  part that fails the one with the first fault.
* What is wrong with a value is wrong before anything inside it, since a way comes before those that
  go on from its end (`Judges.here`).
-/

namespace Invoicing

namespace Json

/-! ## Ways through a document -/

/-- A step from a value to a part of it. -/
inductive Step where
  /-- To the member of a name. -/
  | field (name : Text)
  /-- To the item at a place. -/
  | item (index : ℕ)
  deriving DecidableEq, Repr

/-- Members go by the octets of their names, and items by their places. -/
inductive Step.Before : Step → Step → Prop
  /-- A name of a smaller UTF-8 form comes first. -/
  | field {first second : Text} (h : Text.octets first < Text.octets second) :
      Before (.field first) (.field second)
  /-- A smaller place comes first. -/
  | item {first second : ℕ} (h : first < second) : Before (.item first) (.item second)

instance : Std.Asymm Step.Before where
  asymm _ _ hfirst hsecond := by
    cases hfirst with
    | field h => cases hsecond with | field hback => exact List.lt_asymm h hback
    | item h => cases hsecond with | item hback => exact Nat.lt_asymm h hback

/-- The part of a value that a step leads to. -/
def part? : Json → Step → Option Json
  | .object members, .field name => members.lookup name
  | .array items, .item index => items[index]?
  | _, _ => none

/-- What is wrong with a value, given the steps that lead to it, the last one first.  A field holds
the value at its name, and the items of an array there. -/
def fault? : List Step → Json → Option BindingError
  | [], value => if value.kind = .object then none else some (.rootNotObject value.kind)
  | .field name :: _, .object _ => some (.nestedObject name)
  | .field name :: _, .number numeral =>
      if numeral.isLong || (Decimal.read? (numberText numeral)).isSome then none
      else some (.numberOutOfRange name)
  | .field _ :: _, _ => none
  | .item _ :: .field name :: _, value =>
      if value.kind = .object then none else some (.itemNotObject name value.kind)
  | .item _ :: _, _ => none

/-- What is wrong with the value at the end of a way, given the steps that were taken before. -/
def faultAt? (taken : List Step) (value : Json) : List Step → Option BindingError
  | [] => fault? taken value
  | step :: way => (value.part? step).bind fun part => part.faultAt? (step :: taken) way

/-- The error is that of the first fault of a document. -/
def IsFirstFault (document : Json) (error : BindingError) : Prop :=
  ∃ way, document.faultAt? [] way = some error ∧
    ∀ other, (document.faultAt? [] other).isSome → other = way ∨ List.Lex Step.Before way other

end Json

namespace Context

open Json

/-! ## Parts in order -/

section Parts

variable {α β : Type}

/-- A conversion succeeds where nothing is wrong, and fails with what is wrong first. -/
inductive Judges (faultAt? : List Step → Option BindingError) : Except BindingError α → Prop
  /-- Nothing is wrong. -/
  | ok {result : α} (hnone : ∀ way, faultAt? way = none) : Judges faultAt? (.ok result)
  /-- Something is wrong, and nothing before. -/
  | error {way : List Step} {error : BindingError} (hfault : faultAt? way = some error)
      (hfirst : ∀ other, (faultAt? other).isSome → other = way ∨ List.Lex Step.Before way other) :
      Judges faultAt? (.error error)

theorem Judges.map {faultAt? : List Step → Option BindingError} {result : Except BindingError α}
    (h : Judges faultAt? result) (make : α → β) : Judges faultAt? (result.map make) := by
  cases h with
  | ok hnone => exact .ok hnone
  | error hfault hfirst => exact .error hfault hfirst

/-- A fault at the start of all ways is the first one. -/
theorem Judges.here {faultAt? : List Step → Option BindingError} {error : BindingError}
    (hfault : faultAt? [] = some error) :
    Judges faultAt? (.error error : Except BindingError α) := by
  refine .error hfault fun other _ => ?_
  cases other with
  | nil => exact .inl rfl
  | cons step way => exact .inr .nil

/-- **The first part that fails decides**, when the steps to the parts are in order. -/
theorem Judges.mapM {faultAt? : List Step → Option BindingError} {parts : List β} {step : β → Step}
    {below : β → List Step → Option BindingError} {convert : β → Except BindingError α}
    (hordered : (parts.map step).Pairwise Step.Before) (hnone : faultAt? [] = none)
    (hfault : ∀ next way error, faultAt? (next :: way) = some error ↔
      ∃ part ∈ parts, step part = next ∧ below part way = some error)
    (hparts : ∀ part ∈ parts, Judges (below part) (convert part)) :
    Judges faultAt? (parts.mapM convert) := by
  induction parts with
  | nil =>
      refine .ok fun way => ?_
      cases way with
      | nil => exact hnone
      | cons next way => simpa [Option.eq_none_iff_forall_ne_some] using hfault next way
  | cons part rest ih =>
      obtain ⟨hpart, hrest⟩ := List.forall_mem_cons.mp hparts
      obtain ⟨hbefore, hordered⟩ := List.pairwise_cons.mp hordered
      rw [List.mapM_cons]
      cases hconvert : convert part with
      | error error =>
          rw [hconvert] at hpart
          cases hpart with
          | @error way _ hbelow hfirst =>
              refine .error ((hfault _ way error).mpr ⟨part, List.mem_cons_self .., rfl, hbelow⟩) ?_
              intro other hother
              obtain ⟨otherError, hother⟩ := Option.isSome_iff_exists.mp hother
              cases other with
              | nil => simp [hnone] at hother
              | cons next otherWay =>
                  obtain ⟨found, hfound, rfl, hotherBelow⟩ := (hfault next otherWay _).mp hother
                  rcases List.mem_cons.mp hfound with rfl | hfound
                  · rcases hfirst otherWay (Option.isSome_of_eq_some hotherBelow) with rfl | hlex
                    · exact .inl rfl
                    · exact .inr (.cons hlex)
                  · exact .inr (.rel (hbefore _ (List.mem_map_of_mem hfound)))
      | ok result =>
          rw [hconvert] at hpart
          cases hpart with
          | ok hclear =>
              -- the faults are those of the other parts
              have hothers := ih hordered (fun next way error => by
                rw [hfault]
                simp [hclear]) hrest
              exact hothers.map (result :: ·)

end Parts

/-! ## Faults -/

section Faults

variable {α β : Type} {taken : List Step} {value : Json}

/-- A value without parts is converted when nothing is wrong with itself. -/
theorem judges_of_part?_eq_none {result : α} (hpart : ∀ step, value.part? step = none)
    (hfault : fault? taken value = none) :
    Judges (value.faultAt? taken) (.ok result : Except BindingError α) := by
  refine .ok fun way => ?_
  cases way with
  | nil => exact hfault
  | cons step way => rw [faultAt?, hpart, Option.bind_none]

/-- A value with parts is converted part by part when nothing is wrong with itself. -/
theorem judges_of_parts {parts : List β} (step : β → Step) (content : β → Json)
    {convert : β → Except BindingError α} (hfault : fault? taken value = none)
    (hpart : ∀ next part, value.part? next = some part ↔
      ∃ found ∈ parts, step found = next ∧ content found = part)
    (hordered : (parts.map step).Pairwise Step.Before)
    (hparts : ∀ found ∈ parts,
      Judges ((content found).faultAt? (step found :: taken)) (convert found)) :
    Judges (value.faultAt? taken) (parts.mapM convert) := by
  refine Judges.mapM hordered hfault (fun next way error => ?_) hparts
  rw [faultAt?, Option.bind_eq_some_iff]
  constructor
  · rintro ⟨part, hnext, hbelow⟩
    obtain ⟨found, hfound, rfl, rfl⟩ := (hpart next part).mp hnext
    exact ⟨found, hfound, rfl, hbelow⟩
  · rintro ⟨found, hfound, rfl, hbelow⟩
    exact ⟨content found, (hpart _ _).mpr ⟨found, hfound, rfl, rfl⟩, hbelow⟩

theorem part?_object_eq_some_iff {members : List (Text × Json)}
    (hnodup : (members.map Prod.fst).Nodup) (next : Step) (part : Json) :
    (Json.object members).part? next = some part ↔
      ∃ member ∈ members, Step.field member.1 = next ∧ member.2 = part := by
  constructor
  · intro h
    cases next with
    | field name => exact ⟨(name, part), Text.mem_of_lookup_eq_some h, rfl, rfl⟩
    | item index => cases h
  · rintro ⟨member, hmember, rfl, rfl⟩
    exact Text.lookup_eq_some_of_mem hnodup hmember

theorem part?_array_eq_some_iff {items : List Json} (next : Step) (part : Json) :
    (Json.array items).part? next = some part ↔
      ∃ found ∈ items.zipIdx, Step.item found.2 = next ∧ found.1 = part := by
  constructor
  · intro h
    cases next with
    | field name => cases h
    | item index => exact ⟨(part, index), List.mem_zipIdx_iff_getElem?.mpr h, rfl, rfl⟩
  · rintro ⟨found, hfound, rfl, rfl⟩
    exact List.mem_zipIdx_iff_getElem?.mp hfound

/-- **A conversion fails with the first fault.** -/
theorem judges_of_isOrdered (h : value.IsOrdered) :
    (∀ field taken, Judges (value.faultAt? (.field field :: taken)) (bindingOfJson field value)) ∧
      ∀ taken, value.kind = .object → fault? taken value = none →
        Judges (value.faultAt? taken) (ofJson value) := by
  induction h with
  | null => exact ⟨fun _ _ => judges_of_part?_eq_none (fun _ => rfl) rfl, nofun⟩
  | bool flag => exact ⟨fun _ _ => judges_of_part?_eq_none (fun _ => rfl) rfl, nofun⟩
  | string content => exact ⟨fun _ _ => judges_of_part?_eq_none (fun _ => rfl) rfl, nofun⟩
  | number number =>
      refine ⟨fun field taken => ?_, nofun⟩
      have hsome := isSome_scalarOfNumber? number
      cases hscalar : scalarOfNumber? number with
      | none =>
          rw [bindingOfJson_number_of_eq_none hscalar]
          rw [hscalar, Option.isSome_none] at hsome
          exact .here (by rw [faultAt?, fault?, ← hsome, if_neg Bool.false_ne_true])
      | some scalar =>
          rw [bindingOfJson_number_of_eq_some hscalar]
          rw [hscalar, Option.isSome_some] at hsome
          exact judges_of_part?_eq_none (fun _ => rfl) (by rw [fault?, ← hsome, if_pos rfl])
  | @array items hitems ih =>
      refine ⟨fun field taken => ?_, nofun⟩
      have hzip : items.mapM (itemOfJson field) =
          items.zipIdx.mapM fun found => itemOfJson field found.1 := by
        rw [← Function.comp_def, ← List.mapM_map, List.zipIdx_map_fst]
      rw [bindingOfJson_array, hzip]
      refine (judges_of_parts (fun found => .item found.2) Prod.fst rfl part?_array_eq_some_iff
        ?_ ?_).map _
      · have hindices : (items.zipIdx.map Prod.snd).Pairwise (· < ·) := by
          rw [List.zipIdx_map_snd]
          exact List.pairwise_lt_range' 1
        rw [List.pairwise_map] at hindices ⊢
        exact hindices.imp .item
      · intro found hfound
        have hmem : found.1 ∈ items := List.fst_mem_of_mem_zipIdx hfound
        rw [itemOfJson]
        split
        · next hkind => exact (ih _ hmem).2 _ hkind (by rw [fault?, if_pos hkind])
        · next hkind => exact .here (by rw [faultAt?, fault?, if_neg hkind])
  | @object members hnames hvalues ih =>
      refine ⟨fun _ _ => .here rfl, fun taken _ hfault => ?_⟩
      have hnodup : (members.map Prod.fst).Nodup := by
        refine hnames.imp ?_
        rintro name _ hlt rfl
        exact List.lt_irrefl name hlt
      rw [ofJson_object]
      refine (judges_of_parts (fun member => .field member.1) Prod.snd hfault
        (part?_object_eq_some_iff hnodup) ?_ ?_).map _
      · rw [List.pairwise_map] at hnames ⊢
        exact hnames.imp fun hlt => .field (Text.octets_lt_octets hlt)
      · exact fun member hmem => ((ih member hmem).1 _ _).map _

theorem judges_ofJson (h : value.IsOrdered) : Judges (value.faultAt? []) (ofJson value) := by
  by_cases hkind : value.kind = .object
  · exact (judges_of_isOrdered h).2 [] hkind (by rw [fault?, if_pos hkind])
  · rw [ofJson_of_kind_ne hkind]
    exact .here (by rw [faultAt?, fault?, if_neg hkind])

/-- Of two ways only one can be first. -/
theorem eq_of_first {first second : List Step}
    (hfirst : first = second ∨ List.Lex Step.Before second first)
    (hsecond : second = first ∨ List.Lex Step.Before first second) : first = second := by
  rcases hfirst with heq | hfirst
  · exact heq
  · rcases hsecond with heq | hsecond
    · exact heq.symm
    · exact absurd hsecond (asymm hfirst)

theorem ofJson_eq_error_iff (h : value.IsOrdered) {error : BindingError} :
    ofJson value = .error error ↔ value.IsFirstFault error := by
  have hjudges := judges_ofJson h
  constructor
  · intro herror
    rw [herror] at hjudges
    cases hjudges with
    | error hfault hfirst => exact ⟨_, hfault, hfirst⟩
  · rintro ⟨way, hfault, hfirst⟩
    cases hresult : ofJson value with
    | ok context =>
        rw [hresult] at hjudges
        cases hjudges with
        | ok hnone => simp [hnone] at hfault
    | error other =>
        rw [hresult] at hjudges
        cases hjudges with
        | error hother hbefore =>
            have hsame := eq_of_first (hbefore _ (Option.isSome_of_eq_some hfault))
              (hfirst _ (Option.isSome_of_eq_some hother))
            rw [hsame, hother, Option.some.injEq] at hfault
            rw [hfault]

end Faults

/-! ## The whole conversion -/

/-- **A document is a context, or its first fault is the error.** -/
theorem ofJson_exact {document : Json} (hordered : document.IsOrdered) :
    ((∃ context, ofJson document = .ok context) ↔ document.IsContext) ∧
    (∀ context, ofJson document = .ok context → document.BindsAll context) ∧
    (∀ error, ofJson document = .error error ↔ document.IsFirstFault error) ∧
    (document.kind ≠ .object → ofJson document = .error (.rootNotObject document.kind)) ∧
    ∀ number : Int, -2 ^ 63 ≤ number → number < 2 ^ 64 →
      (Json.number (.whole number)).IsBindable ∧
      ∀ binding, (Json.number (.whole number)).Binds binding →
        ∃ scalar, binding = .scalar scalar ∧ scalar.number? = some (number : ℚ) ∧
          scalar.toText = Text.ofInt number := by
  refine ⟨(exists_eq_ok_iff hordered).2, (binds_of_eq_ok hordered).2,
    fun _ => ofJson_eq_error_iff hordered, ofJson_of_kind_ne, fun number hlow hhigh => ?_⟩
  obtain ⟨scalar, hscalar, hnumber, htext⟩ := scalarOfNumber?_whole hlow hhigh
  refine ⟨isBindable_number_iff.mpr (Option.isSome_of_eq_some hscalar), fun binding hbinding => ?_⟩
  obtain ⟨other, hother, rfl⟩ := binds_number_iff.mp hbinding
  obtain rfl : scalar = other := Option.some.inj (hscalar.symm.trans hother)
  exact ⟨scalar, rfl, hnumber, htext⟩

/-- A document with three faults: a number among the items of an array inside an item, and after it
a nested object in the same item and another one at the end. -/
def faulty : Json := .object [
  ("Lines".toList, .array [
    .object [("Price".toList, .number (.whole (2 ^ 64 - 1)))],
    .object [("Taxes".toList, .array [.object [], .ofNat 7]), ("Unit".toList, .object [])]]),
  ("Total".toList, .object [])]

/-- The error names the field inside the item that holds the number. -/
theorem ofJson_faulty : faulty.IsOrdered ∧ ¬ faulty.IsContext ∧
    faulty.IsFirstFault (.itemNotObject "Taxes".toList .number) := by
  have hordered : faulty.IsOrdered := by
    have hempty : (Json.object []).IsOrdered := .object .nil nofun
    refine .object (by decide) (List.forall_mem_cons.mpr ⟨?_, List.forall_mem_singleton.mpr hempty⟩)
    refine .array (List.forall_mem_cons.mpr ⟨?_, List.forall_mem_singleton.mpr ?_⟩)
    · exact .object (by decide) (List.forall_mem_singleton.mpr (.number _))
    · refine .object (by decide) (List.forall_mem_cons.mpr ⟨?_, ?_⟩)
      · exact .array (List.forall_mem_cons.mpr ⟨hempty, List.forall_mem_singleton.mpr (.number _)⟩)
      · exact List.forall_mem_singleton.mpr hempty
  have herror : ofJson faulty = .error (.itemNotObject "Taxes".toList .number) := rfl
  obtain ⟨hcontext, -, hfault, -⟩ := ofJson_exact hordered
  refine ⟨hordered, ?_, (hfault _).mp herror⟩
  rw [← hcontext, herror]
  exact nofun

end Context

end Invoicing
