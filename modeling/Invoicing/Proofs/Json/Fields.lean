import Invoicing.Json.Field
import Invoicing.Proofs.Json.Reading

/-!
# Fields that may be missing

A record is kept as an object, and a field may be missing there when its value is the one that
stands for a missing field.  `Json.without` takes members out of an object, and `Json.MayOmit` says
which members may go.  Decoding a field of what is left then is decoding it of the whole record
(`Json.fieldOr?_without`), and a required field cannot have gone (`Json.field?_without`).
-/

namespace Invoicing

/-! ## Members of objects -/

namespace Text

variable {α : Type}

/-- Of several entries of one name the one put in last is found. -/
theorem lookup_foldl_insertEntry (name : Text) (entries sorted : List (Text × α)) :
    (entries.foldl (fun sorted (name, value) => insertEntry name value sorted) sorted).lookup name =
      (entries.reverse.lookup name).or (sorted.lookup name) := by
  induction entries generalizing sorted with
  | nil => rw [List.foldl_nil, List.reverse_nil, List.lookup_nil, Option.none_or]
  | cons entry entries ih =>
      obtain ⟨key, value⟩ := entry
      rw [List.foldl_cons, ih, lookup_insertEntry, List.reverse_cons, List.lookup_append,
        lookup_cons_eq_ite, List.lookup_nil, Option.or_assoc]
      split
      · rw [Option.some_or]
      · rw [Option.none_or]

theorem pairwise_map_fst_foldl_insertEntry (entries : List (Text × α)) {sorted : List (Text × α)}
    (h : (sorted.map Prod.fst).Pairwise (· < ·)) :
    ((entries.foldl (fun sorted (name, value) => insertEntry name value sorted) sorted).map
      Prod.fst).Pairwise (· < ·) := by
  induction entries generalizing sorted with
  | nil => exact h
  | cons entry entries ih => exact ih (pairwise_map_fst_insertEntry entry.1 entry.2 h)

theorem mem_of_mem_insertEntry {name : Text} {value : α} {entry : Text × α}
    {entries : List (Text × α)} (h : entry ∈ insertEntry name value entries) :
    entry = (name, value) ∨ entry ∈ entries := by
  induction entries with
  | nil => simpa [insertEntry] using h
  | cons head rest ih =>
      rw [insertEntry] at h
      split at h
      · exact List.mem_cons.mp h
      · split at h
        · rcases List.mem_cons.mp h with rfl | hrest
          · exact .inl rfl
          · exact .inr (List.mem_cons_of_mem _ hrest)
        · rcases List.mem_cons.mp h with rfl | hrest
          · exact .inr (List.mem_cons_self ..)
          · exact (ih hrest).imp id (List.mem_cons_of_mem _)

theorem mem_of_mem_foldl_insertEntry {entry : Text × α} {entries sorted : List (Text × α)}
    (h : entry ∈ entries.foldl (fun sorted (name, value) => insertEntry name value sorted) sorted) :
    entry ∈ entries ∨ entry ∈ sorted := by
  induction entries generalizing sorted with
  | nil => exact .inr h
  | cons head rest ih =>
      rcases ih h with hrest | hinserted
      · exact .inl (List.mem_cons_of_mem _ hrest)
      · rcases mem_of_mem_insertEntry hinserted with rfl | hsorted
        · exact .inl (List.mem_cons_self ..)
        · exact .inr hsorted

end Text

namespace Json

variable {α : Type}

theorem lookup_map_toList (name : String) (fields : List (String × Json)) :
    (fields.map fun (name, value) => (name.toList, value)).lookup name.toList =
      fields.lookup name := by
  induction fields with
  | nil => rfl
  | cons field fields ih =>
      obtain ⟨key, value⟩ := field
      rw [List.map_cons, Text.lookup_cons_eq_ite, ih, List.lookup_cons]
      by_cases hname : name = key
      · rw [hname, if_pos rfl, beq_self_eq_true]
      · have htexts : name.toList ≠ key.toList := fun h => hname (String.toList_inj.mp h)
        rw [if_neg htexts, beq_eq_false_iff_ne.mpr hname]

theorem member?_record (name : String) (fields : List (String × Json)) :
    (record fields).member? name.toList = fields.reverse.lookup name := by
  show (List.foldl _ [] _).lookup name.toList = _
  rw [Text.lookup_foldl_insertEntry, List.lookup_nil, Option.or_none, ← List.map_reverse,
    lookup_map_toList]

theorem field?_record (fields : List (String × Json)) (name : String) (decode : Json → Option α) :
    (record fields).field? name decode = (fields.reverse.lookup name).bind decode := by
  rw [field?, member?_record, Option.bind_eq_bind]

theorem fieldOr?_record (fields : List (String × Json)) (name : String) (decode : Json → Option α)
    (default : α) : (record fields).fieldOr? name decode default =
      ((fields.reverse.lookup name).map decode).getD (some default) := by
  rw [fieldOr?, member?_record]
  cases fields.reverse.lookup name <;> rfl

/-- A record is determined by its text when the values of its fields are. -/
theorem isExact_record {fields : List (String × Json)} (h : ∀ field ∈ fields, IsExact field.2) :
    IsExact (record fields) := by
  refine .object (Text.pairwise_map_fst_foldl_insertEntry _ .nil) fun member hmember => ?_
  rcases Text.mem_of_mem_foldl_insertEntry hmember with hfield | hnil
  · obtain ⟨field, hmem, rfl⟩ := List.mem_map.mp hfield
    exact h field hmem
  · exact absurd hnil (List.not_mem_nil)

/-! ## Leaving members out -/

/-- The object without the members of some names. -/
def without (omitted : List Text) : Json → Json
  | .object members => .object (members.filter fun member => !omitted.contains member.1)
  | value => value

/-- A member may be missing when its value is the one that stands for it then. -/
def MayOmit (usual record : Json) (name : Text) : Prop :=
  ∃ value, usual.member? name = some value ∧ record.member? name = some value

section Without

variable {usual record : Json} {omitted : List Text}

theorem lookup_filter_not_contains (name : Text) (members : List (Text × Json)) :
    (members.filter fun member => !omitted.contains member.1).lookup name =
      if name ∈ omitted then none else members.lookup name := by
  induction members with
  | nil => simp
  | cons member members ih =>
      obtain ⟨key, value⟩ := member
      rw [Text.lookup_cons_eq_ite]
      by_cases hkey : key ∈ omitted
      · rw [List.filter_cons_of_neg (by simpa using hkey), ih]
        by_cases hname : name = key
        · rw [hname, if_pos hkey, if_pos hkey]
        · rw [if_neg hname]
      · rw [List.filter_cons_of_pos (by simpa using hkey), Text.lookup_cons_eq_ite, ih]
        by_cases hname : name = key
        · rw [hname, if_pos rfl, if_neg hkey, if_pos rfl]
        · rw [if_neg hname, if_neg hname]

theorem member?_without (name : Text) (record : Json) :
    (record.without omitted).member? name =
      if name ∈ omitted then none else record.member? name := by
  cases record with
  | object members => exact lookup_filter_not_contains name members
  | _ => simp [without, member?]

@[simp] theorem isObject_without (record : Json) :
    (record.without omitted).isObject = record.isObject := by
  cases record <;> rfl

theorem IsExact.without (h : IsExact record) : IsExact (record.without omitted) := by
  cases h with
  | object hnames hvalues =>
      refine .object ?_ fun member hmember => hvalues member (List.mem_of_mem_filter hmember)
      exact hnames.sublist (List.filter_sublist.map Prod.fst)
  | null => exact .null
  | bool flag => exact .bool flag
  | whole hlow hhigh => exact .whole hlow hhigh
  | string content => exact .string content
  | array hitems => exact .array hitems

variable {name : String} {decode : Json → Option α} {default : α}

/-- A required field is never missing. -/
theorem field?_without (homit : ∀ name ∈ omitted, MayOmit usual record name)
    (husual : usual.field? name some = none) :
    (record.without omitted).field? name decode = record.field? name decode := by
  have hname : name.toList ∉ omitted := by
    intro hmem
    obtain ⟨value, hvalue, -⟩ := homit _ hmem
    rw [field?, hvalue] at husual
    contradiction
  rw [field?, member?_without, if_neg hname, field?]

/-- A field that is missing had the value that stands for it. -/
theorem fieldOr?_without (homit : ∀ name ∈ omitted, MayOmit usual record name)
    (husual : usual.field? name decode = some default) :
    (record.without omitted).fieldOr? name decode default =
      record.fieldOr? name decode default := by
  rw [fieldOr?, member?_without, fieldOr?]
  split_ifs with hname
  · obtain ⟨value, hvalue, hmember⟩ := homit _ hname
    rw [field?, hvalue, Option.bind_eq_bind, Option.bind_some] at husual
    rw [hmember]
    exact husual.symm
  · rfl

end Without

/-! ## Records -/

/-- A record is read back from its text, also from one that lacks fields whose values stand for
missing ones. -/
def IsKept (toJson : α → Json) (ofJson? : Json → Option α) (usual : Json) (record : α) : Prop :=
  ∀ omitted : List Text, (∀ name ∈ omitted, MayOmit usual (toJson record) name) →
    (read? ((toJson record).without omitted).text).bind ofJson? = some record

/-- A record is kept when its object is read back, is determined by its text and may lose fields. -/
theorem isKept_of {toJson : α → Json} {ofJson? : Json → Option α} {usual : Json} {record : α}
    (hexact : IsExact (toJson record)) (hread : ofJson? (toJson record) = some record)
    (hwithout : ∀ omitted : List Text, (∀ name ∈ omitted, MayOmit usual (toJson record) name) →
      ofJson? ((toJson record).without omitted) = ofJson? (toJson record)) :
    IsKept toJson ofJson? usual record := by
  intro omitted homit
  rw [read?_text hexact.without, Option.bind_some, hwithout omitted homit, hread]

end Json

end Invoicing
