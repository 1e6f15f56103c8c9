import Invoicing.Binding.Document
import Invoicing.Json.Writer
import Invoicing.Proofs.Decimal.Numeral
import Invoicing.Proofs.Decimal.Value

/-!
# What documents are bound as

An object is a context when each of its members can be bound, and an array can be bound when each of
its items is a context (`Json.IsContext`, `Json.IsBindable`).  A conversion succeeds on these
documents and on no others (`Context.exists_eq_ok_iff`), and it loses nothing: `Json.BindsAll` and
`Json.Binds` say what comes of a document, member by member and item by item
(`Context.binds_of_eq_ok`).

Members and items are converted alike, one after another, so both conversions are `List.mapM` of
what happens to one of them.  Documents are a nested type: the proofs go by the cases of
`Json.IsOrdered`, which is assumed of a document, and speak of a value under a name and of one that
stands for a context together.
-/

namespace Invoicing

/-! ## Documents that are contexts -/

/-- Whether a number is whole and fits 64 bits with a sign. -/
def JsonNumber.isLong : JsonNumber → Bool
  | .whole number => -2 ^ 63 ≤ number && number < 2 ^ 63
  | .real _ => false

namespace Json

/-- A document whose objects name each member once, in ascending order. -/
inductive IsOrdered : Json → Prop
  /-- `null`. -/
  | null : IsOrdered .null
  /-- `true` and `false`. -/
  | bool (flag : Bool) : IsOrdered (.bool flag)
  /-- Any number. -/
  | number (number : JsonNumber) : IsOrdered (.number number)
  /-- Any string. -/
  | string (content : Text) : IsOrdered (.string content)
  /-- An array of such documents. -/
  | array {items : List Json} (hitems : ∀ item ∈ items, IsOrdered item) : IsOrdered (.array items)
  /-- An object of such documents, with ascending names. -/
  | object {members : List (Text × Json)} (hnames : (members.map Prod.fst).Pairwise (· < ·))
      (hvalues : ∀ member ∈ members, IsOrdered member.2) : IsOrdered (.object members)

mutual

/-- A value that a name can be bound to. -/
inductive IsBindable : Json → Prop
  /-- `null`. -/
  | null : IsBindable .null
  /-- `true` and `false`. -/
  | bool (flag : Bool) : IsBindable (.bool flag)
  /-- Any string. -/
  | string (content : Text) : IsBindable (.string content)
  /-- A whole number within 64 bits. -/
  | long {number : JsonNumber} (hlong : number.isLong) : IsBindable (.number number)
  /-- A number whose numeral is read as a decimal. -/
  | decimal {number : JsonNumber} {decimal : Decimal}
      (hread : Decimal.read? (numberText number) = some decimal) : IsBindable (.number number)
  /-- An array of contexts. -/
  | array {items : List Json} (hitems : ∀ item ∈ items, IsContext item) : IsBindable (.array items)

/-- An object that is a context. -/
inductive IsContext : Json → Prop
  /-- Every member can be bound. -/
  | object {members : List (Text × Json)} (hvalues : ∀ member ∈ members, IsBindable member.2) :
      IsContext (.object members)

end

mutual

/-- What a value is bound as. -/
inductive Binds : Json → Binding → Prop
  /-- `null` is bound as nothing. -/
  | null : Binds .null (.scalar .null)
  /-- `true` and `false` are flags. -/
  | bool (flag : Bool) : Binds (.bool flag) (.scalar (.bool flag))
  /-- A string is a text. -/
  | string (content : Text) : Binds (.string content) (.scalar (.text content))
  /-- A whole number within 64 bits stays whole. -/
  | long {number : Int} (hlong : (JsonNumber.whole number).isLong) :
      Binds (.number (.whole number)) (.scalar (.whole number))
  /-- Any other number is the decimal that its numeral is read as. -/
  | decimal {number : JsonNumber} {decimal : Decimal} (hlong : number.isLong = false)
      (hread : Decimal.read? (numberText number) = some decimal) :
      Binds (.number number) (.scalar (.decimal decimal))
  /-- An array is the sequence of what its items are bound as. -/
  | array {items : List Json} {contexts : List Context} (hlength : items.length = contexts.length)
      (hitems : ∀ (index : ℕ) (item : Json) (context : Context), items[index]? = some item →
        contexts[index]? = some context → BindsAll item context) :
      Binds (.array items) (.sequence contexts)

/-- What an object is bound as. -/
inductive BindsAll : Json → Context → Prop
  /-- The names are those of the members, and each is bound to what its member is bound as. -/
  | object {members : List (Text × Json)} {context : Context}
      (hnames : context.names = members.map Prod.fst)
      (hvalues : ∀ (name : Text) (value : Json) (binding : Binding),
        members.lookup name = some value → context.get? name = some binding →
          Binds value binding) :
      BindsAll (.object members) context

end

end Json

/-- The exact value of a number. -/
def Scalar.number? : Scalar → Option ℚ
  | .whole number => some number
  | .decimal number => some number.value
  | _ => none

namespace Context

open Json

/-! ## Parts one after another -/

section Parts

variable {α β : Type}

theorem map_eq_ok_iff {result : Except BindingError α} {make : α → β} {made : β} :
    result.map make = .ok made ↔ ∃ value, result = .ok value ∧ make value = made := by
  cases result <;> simp [Except.map]

theorem exists_map_eq_ok_iff {result : Except BindingError α} {make : α → β} :
    (∃ made, result.map make = .ok made) ↔ ∃ value, result = .ok value := by
  simp [map_eq_ok_iff]

/-- All parts are converted when each of them is. -/
theorem mapM_eq_ok_iff {convert : β → Except BindingError α} {parts : List β} {results : List α} :
    parts.mapM convert = .ok results ↔
      List.Forall₂ (fun part result => convert part = .ok result) parts results := by
  induction parts generalizing results with
  | nil =>
      rw [List.mapM_nil, List.forall₂_nil_left_iff]
      simp [pure, Except.pure, eq_comm]
  | cons part rest ih =>
      rw [List.mapM_cons, List.forall₂_cons_left_iff]
      cases hpart : convert part with
      | error error => simp [bind, Except.bind]
      | ok result =>
          cases hrest : rest.mapM convert with
          | error error => simp [bind, Except.bind, ← ih, hrest]
          | ok others => simp [bind, Except.bind, pure, Except.pure, ← ih, hrest, eq_comm]

theorem exists_mapM_eq_ok_iff {convert : β → Except BindingError α} {parts : List β} :
    (∃ results, parts.mapM convert = .ok results) ↔
      ∀ part ∈ parts, ∃ result, convert part = .ok result := by
  simp only [mapM_eq_ok_iff]
  induction parts with
  | nil => simp
  | cons part rest ih => simp [List.forall₂_cons_left_iff, ← ih]

end Parts

/-! ## Conversion part by part -/

section Conversion

variable {document value : Json} {field : Text}

/-- The context for an item of the array that a field holds. -/
def itemOfJson (field : Text) (item : Json) : Except BindingError Context :=
  if item.kind = .object then ofJson item else .error (.itemNotObject field item.kind)

theorem itemsOfJson_eq_mapM (field : Text) (items : List Json) :
    itemsOfJson field items = items.mapM (itemOfJson field) := by
  induction items with
  | nil => rfl
  | cons item rest ih =>
      rw [List.mapM_cons, ← ih]
      cases item with
      | object members =>
          simp only [itemsOfJson, itemOfJson, Json.kind, if_true, ofJson]
          cases entriesOfJson members <;> rfl
      | _ => rfl

theorem entriesOfJson_eq_mapM (members : List (Text × Json)) :
    entriesOfJson members = members.mapM fun member =>
      (bindingOfJson member.1 member.2).map (member.1, ·) := by
  induction members with
  | nil => rfl
  | cons member rest ih =>
      obtain ⟨name, value⟩ := member
      rw [List.mapM_cons, ← ih]
      simp only [entriesOfJson]
      cases bindingOfJson name value <;> rfl

theorem bindingOfJson_array (field : Text) (items : List Json) :
    bindingOfJson field (.array items) = (items.mapM (itemOfJson field)).map .sequence := by
  rw [bindingOfJson, itemsOfJson_eq_mapM]
  rfl

theorem ofJson_object (members : List (Text × Json)) :
    ofJson (.object members) = (members.mapM fun member =>
      (bindingOfJson member.1 member.2).map (member.1, ·)).map Context.mk := by
  rw [ofJson, entriesOfJson_eq_mapM]
  rfl

theorem ofJson_of_kind_ne (h : document.kind ≠ .object) :
    ofJson document = .error (.rootNotObject document.kind) := by
  cases document with
  | object members => exact absurd rfl h
  | _ => rfl

/-! ### Numbers -/

theorem isLong_whole_iff {number : Int} :
    (JsonNumber.whole number).isLong ↔ -2 ^ 63 ≤ number ∧ number < 2 ^ 63 := by
  rw [JsonNumber.isLong, Bool.and_eq_true, decide_eq_true_iff, decide_eq_true_iff]

theorem scalarOfNumber?_of_isLong {number : Int} (h : (JsonNumber.whole number).isLong) :
    scalarOfNumber? (.whole number) = some (.whole number) := by
  rw [scalarOfNumber?, if_pos (isLong_whole_iff.mp h)]

/-- Any other number is what its numeral is read as. -/
theorem scalarOfNumber?_of_not_isLong {number : JsonNumber} (h : number.isLong = false) :
    scalarOfNumber? number = (Decimal.read? (numberText number)).map .decimal := by
  cases number with
  | whole number =>
      have hrange : ¬ (-2 ^ 63 ≤ number ∧ number < 2 ^ 63) := by
        rw [← isLong_whole_iff, h]
        exact Bool.false_ne_true
      rw [scalarOfNumber?, if_neg hrange, numberText, Decimal.read?_ofInt]
  | real number => rfl

/-- A number is bound unless no decimal comes near it. -/
theorem isSome_scalarOfNumber? (number : JsonNumber) :
    (scalarOfNumber? number).isSome =
      (number.isLong || (Decimal.read? (numberText number)).isSome) := by
  cases hlong : number.isLong with
  | true =>
      cases number with
      | whole number => rw [scalarOfNumber?_of_isLong hlong, Option.isSome_some, Bool.true_or]
      | real number => exact absurd hlong Bool.false_ne_true
  | false => rw [scalarOfNumber?_of_not_isLong hlong, Option.isSome_map, Bool.false_or]

theorem bindingOfJson_number_of_eq_some {number : JsonNumber} {scalar : Scalar}
    (h : scalarOfNumber? number = some scalar) :
    bindingOfJson field (.number number) = .ok (.scalar scalar) := by
  rw [bindingOfJson, h]

theorem bindingOfJson_number_of_eq_none {number : JsonNumber} (h : scalarOfNumber? number = none) :
    bindingOfJson field (.number number) = .error (.numberOutOfRange field) := by
  rw [bindingOfJson, h]

end Conversion

/-! ## What is accepted -/

theorem isBindable_number_iff {number : JsonNumber} :
    IsBindable (.number number) ↔ (scalarOfNumber? number).isSome := by
  rw [isSome_scalarOfNumber?, Bool.or_eq_true, Option.isSome_iff_exists]
  constructor
  · intro h
    cases h with
    | long hlong => exact .inl hlong
    | decimal hread => exact .inr ⟨_, hread⟩
  · rintro (hlong | ⟨decimal, hread⟩)
    · exact .long hlong
    · exact .decimal hread

/-- Only objects are contexts. -/
theorem exists_ofJson_eq_ok_iff_of_kind_ne {value : Json} (h : value.kind ≠ .object) :
    (∃ context, ofJson value = .ok context) ↔ value.IsContext := by
  constructor
  · rintro ⟨context, hcontext⟩
    rw [ofJson_of_kind_ne h] at hcontext
    cases hcontext
  · rintro ⟨-⟩
    exact absurd rfl h

/-- A value is bound under a name when it can be, and is a context when it is one. -/
theorem exists_eq_ok_iff {value : Json} (h : value.IsOrdered) :
    (∀ field, (∃ binding, bindingOfJson field value = .ok binding) ↔ value.IsBindable) ∧
      ((∃ context, ofJson value = .ok context) ↔ value.IsContext) := by
  induction h with
  | null =>
      exact ⟨fun _ => iff_of_true ⟨_, rfl⟩ .null, exists_ofJson_eq_ok_iff_of_kind_ne nofun⟩
  | bool flag =>
      exact ⟨fun _ => iff_of_true ⟨_, rfl⟩ (.bool flag), exists_ofJson_eq_ok_iff_of_kind_ne nofun⟩
  | string content =>
      exact ⟨fun _ => iff_of_true ⟨_, rfl⟩ (.string content),
        exists_ofJson_eq_ok_iff_of_kind_ne nofun⟩
  | number number =>
      refine ⟨fun field => ?_, exists_ofJson_eq_ok_iff_of_kind_ne nofun⟩
      rw [isBindable_number_iff, Option.isSome_iff_exists]
      cases hscalar : scalarOfNumber? number with
      | none => simp [bindingOfJson_number_of_eq_none hscalar]
      | some scalar => simp [bindingOfJson_number_of_eq_some hscalar]
  | @array items hitems ih =>
      refine ⟨fun field => ?_, exists_ofJson_eq_ok_iff_of_kind_ne nofun⟩
      have hitem : ∀ item ∈ items, (∃ context, itemOfJson field item = .ok context) ↔
          item.IsContext := by
        intro item hmem
        rw [← (ih item hmem).2, itemOfJson]
        split
        · rfl
        · next hkind => simp [ofJson_of_kind_ne hkind]
      rw [bindingOfJson_array, exists_map_eq_ok_iff, exists_mapM_eq_ok_iff]
      constructor
      · intro h
        exact .array fun item hmem => (hitem item hmem).mp (h item hmem)
      · intro h
        cases h with
        | array hall => exact fun item hmem => (hitem item hmem).mpr (hall item hmem)
  | @object members hnames hvalues ih =>
      constructor
      · intro field
        refine iff_of_false ?_ nofun
        rintro ⟨binding, hbinding⟩
        cases hbinding
      · rw [ofJson_object, exists_map_eq_ok_iff, exists_mapM_eq_ok_iff]
        simp only [exists_map_eq_ok_iff]
        constructor
        · intro h
          exact .object fun member hmem => ((ih member hmem).1 _).mp (h member hmem)
        · intro h
          cases h with
          | object hall => exact fun member hmem => ((ih member hmem).1 _).mpr (hall member hmem)

/-! ## What is bound -/

/-- A number is bound to a scalar, and in one way only. -/
theorem binds_number_iff {number : JsonNumber} {binding : Binding} :
    Binds (.number number) binding ↔
      ∃ scalar, scalarOfNumber? number = some scalar ∧ binding = .scalar scalar := by
  constructor
  · intro h
    cases h with
    | long hlong => exact ⟨_, scalarOfNumber?_of_isLong hlong, rfl⟩
    | decimal hlong hread =>
        exact ⟨_, by rw [scalarOfNumber?_of_not_isLong hlong, hread, Option.map_some], rfl⟩
  · rintro ⟨scalar, hscalar, rfl⟩
    cases hlong : number.isLong with
    | true =>
        cases number with
        | whole number =>
            rw [scalarOfNumber?_of_isLong hlong, Option.some.injEq] at hscalar
            subst hscalar
            exact .long hlong
        | real number => exact absurd hlong Bool.false_ne_true
    | false =>
        rw [scalarOfNumber?_of_not_isLong hlong] at hscalar
        obtain ⟨decimal, hread, rfl⟩ := Option.map_eq_some_iff.mp hscalar
        exact .decimal hlong hread

/-- The entries of a context have the names of the members, and hold what these are bound to. -/
theorem names_and_lookup_of_forall₂ {members : List (Text × Json)} {entries : List (Text × Binding)}
    (h : List.Forall₂ (fun member entry =>
      (bindingOfJson member.1 member.2).map (member.1, ·) = .ok entry) members entries) :
    entries.map Prod.fst = members.map Prod.fst ∧ ∀ name value binding,
      members.lookup name = some value → entries.lookup name = some binding →
        bindingOfJson name value = .ok binding := by
  induction h with
  | nil => exact ⟨rfl, nofun⟩
  | @cons member entry rest entries hentry _ ih =>
      obtain ⟨binding, hbinding, rfl⟩ := map_eq_ok_iff.mp hentry
      refine ⟨by rw [List.map_cons, List.map_cons, ih.1], fun name value other hvalue hother => ?_⟩
      obtain ⟨key, held⟩ := member
      rw [Text.lookup_cons_eq_ite] at hvalue hother
      split at hvalue
      · next hname =>
          rw [if_pos hname, Option.some.injEq] at hother
          rw [Option.some.injEq] at hvalue
          rw [hname, ← hvalue, ← hother]
          exact hbinding
      · next hname =>
          rw [if_neg hname] at hother
          exact ih.2 name value other hvalue hother

/-- What a value is bound to is what it is bound as. -/
theorem binds_of_eq_ok {value : Json} (h : value.IsOrdered) :
    (∀ field binding, bindingOfJson field value = .ok binding → value.Binds binding) ∧
      ∀ context, ofJson value = .ok context → value.BindsAll context := by
  have hleaf : ∀ {value : Json} {context : Context}, value.kind ≠ .object →
      ofJson value = .ok context → value.BindsAll context := by
    intro value context hkind hcontext
    rw [ofJson_of_kind_ne hkind] at hcontext
    cases hcontext
  induction h with
  | null => exact ⟨by rintro _ _ ⟨⟩; exact .null, fun _ => hleaf nofun⟩
  | bool flag => exact ⟨by rintro _ _ ⟨⟩; exact .bool flag, fun _ => hleaf nofun⟩
  | string content => exact ⟨by rintro _ _ ⟨⟩; exact .string content, fun _ => hleaf nofun⟩
  | number number =>
      refine ⟨fun field binding hbinding => ?_, fun _ => hleaf nofun⟩
      cases hscalar : scalarOfNumber? number with
      | none => simp [bindingOfJson_number_of_eq_none hscalar] at hbinding
      | some scalar =>
          rw [bindingOfJson_number_of_eq_some hscalar] at hbinding
          cases hbinding
          exact binds_number_iff.mpr ⟨scalar, hscalar, rfl⟩
  | @array items hitems ih =>
      refine ⟨fun field binding hbinding => ?_, fun _ => hleaf nofun⟩
      rw [bindingOfJson_array, map_eq_ok_iff] at hbinding
      obtain ⟨contexts, hcontexts, rfl⟩ := hbinding
      obtain ⟨hlength, hget⟩ := List.forall₂_iff_get.mp (mapM_eq_ok_iff.mp hcontexts)
      refine .array hlength fun index item context hitem hcontext => ?_
      obtain ⟨hindex, rfl⟩ := List.getElem?_eq_some_iff.mp hitem
      obtain ⟨hother, rfl⟩ := List.getElem?_eq_some_iff.mp hcontext
      have hconvert : itemOfJson field items[index] = .ok contexts[index] :=
        hget index hindex hother
      rw [itemOfJson] at hconvert
      split at hconvert
      · exact (ih _ (List.getElem_mem hindex)).2 _ hconvert
      · cases hconvert
  | @object members hnames hvalues ih =>
      refine ⟨nofun, fun context hcontext => ?_⟩
      rw [ofJson_object, map_eq_ok_iff] at hcontext
      obtain ⟨entries, hentries, rfl⟩ := hcontext
      obtain ⟨hsame, hlookup⟩ := names_and_lookup_of_forall₂ (mapM_eq_ok_iff.mp hentries)
      refine .object hsame fun name value binding hvalue hbinding => ?_
      exact (ih _ (Text.mem_of_lookup_eq_some hvalue)).1 name binding
        (hlookup name value binding hvalue hbinding)

/-! ### Whole numbers -/

/-- A whole number of 64 bits, signed or unsigned, stands for itself. -/
theorem scalarOfNumber?_whole {number : Int} (hlow : -2 ^ 63 ≤ number) (hhigh : number < 2 ^ 64) :
    ∃ scalar, scalarOfNumber? (.whole number) = some scalar ∧ scalar.number? = some (number : ℚ) ∧
      scalar.toText = Text.ofInt number := by
  by_cases hsmall : number < 2 ^ 63
  · have hlong : (JsonNumber.whole number).isLong := isLong_whole_iff.mpr ⟨hlow, hsmall⟩
    exact ⟨_, scalarOfNumber?_of_isLong hlong, rfl, rfl⟩
  · have hlimit : number.natAbs < Decimal.magnitudeLimit := by
      have hle : (2 : ℕ) ^ 64 ≤ Decimal.magnitudeLimit := by decide
      omega
    obtain ⟨decimal, hdecimal⟩ : ∃ decimal, Decimal.of? number 0 = some decimal :=
      ⟨_, dif_pos ⟨hlimit, Nat.zero_le _⟩⟩
    obtain ⟨hcoefficient, hscale, hsign⟩ := Decimal.of?_eq_some_iff.mp hdecimal
    refine ⟨.decimal decimal, ?_, ?_, ?_⟩
    · rw [scalarOfNumber?, if_neg (fun h => hsmall h.2), hdecimal]
      rfl
    · rw [Scalar.number?, Decimal.value, hcoefficient, hscale, pow_zero, div_one]
    · rw [Scalar.toText, Decimal.text_eq_ofInt hscale hsign, hcoefficient]

end Context

end Invoicing
