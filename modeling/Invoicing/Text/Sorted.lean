import Invoicing.Text.Basic

/-!
# Ascending lists of names

Texts are ordered by the code points of their characters, which is also the order
of their UTF-8 octets.  `sortedDistinct` lists every text of a list once, in that
order, and `insertEntry` keeps a list of named values in it, one value to a name.

Main statements: both results ascend strictly (`pairwise_sortedDistinct`,
`pairwise_map_fst_insertEntry`), nothing is lost (`mem_sortedDistinct`), and the value
put in last is found (`lookup_insertEntry`).
-/

namespace Invoicing.Text

/-- Puts a text into an ascending list without repetitions. -/
def insertSorted (text : Text) : List Text → List Text
  | [] => [text]
  | head :: rest =>
      if text < head then text :: head :: rest
      else if text = head then head :: rest
      else head :: insertSorted text rest

/-- Every text of a list once, in ascending order. -/
def sortedDistinct (texts : List Text) : List Text := texts.foldr insertSorted []

@[simp] theorem mem_insertSorted {text other : Text} {texts : List Text} :
    other ∈ insertSorted text texts ↔ other = text ∨ other ∈ texts := by
  induction texts with
  | nil => simp [insertSorted]
  | cons head rest ih =>
      simp only [insertSorted]
      split
      · simp
      · split
        · next heq => simp [heq]
        · simp [ih]; grind

/-- Sorting neither adds nor loses a text. -/
@[simp] theorem mem_sortedDistinct {text : Text} {texts : List Text} :
    text ∈ sortedDistinct texts ↔ text ∈ texts := by
  induction texts with
  | nil => simp [sortedDistinct]
  | cons head rest ih =>
      simp only [sortedDistinct] at ih
      simp [sortedDistinct, ih]

/-- Texts that are neither equal nor in one order are in the other. -/
theorem lt_of_not_lt_of_ne {first second : Text} (hlt : ¬ first < second) (hne : first ≠ second) :
    second < first := by
  apply Decidable.byContradiction
  intro hnot
  exact hne (List.le_antisymm (List.not_lt.1 hnot) (List.not_lt.1 hlt))

theorem pairwise_insertSorted (text : Text) {texts : List Text} (h : texts.Pairwise (· < ·)) :
    (insertSorted text texts).Pairwise (· < ·) := by
  induction texts with
  | nil => simp [insertSorted]
  | cons head rest ih =>
      obtain ⟨hhead, hrest⟩ := List.pairwise_cons.1 h
      simp only [insertSorted]
      split
      · next hlt =>
          refine List.pairwise_cons.2 ⟨?_, h⟩
          intro other hother
          rcases List.mem_cons.1 hother with rfl | hmem
          · exact hlt
          · exact List.lt_trans hlt (hhead other hmem)
      · next hlt =>
          split
          · exact h
          · next hne =>
              refine List.pairwise_cons.2 ⟨?_, ih hrest⟩
              intro other hother
              rcases mem_insertSorted.1 hother with rfl | hmem
              · exact lt_of_not_lt_of_ne hlt hne
              · exact hhead other hmem

/-- Every text stands before the later ones, so none is listed twice. -/
theorem pairwise_sortedDistinct (texts : List Text) : (sortedDistinct texts).Pairwise (· < ·) := by
  induction texts with
  | nil => simp [sortedDistinct]
  | cons head rest ih => exact pairwise_insertSorted head ih

/-- Puts a named value into an ascending list of them, in place of one of that name. -/
def insertEntry {α : Type} (name : Text) (value : α) : List (Text × α) → List (Text × α)
  | [] => [(name, value)]
  | (other, held) :: rest =>
      if name < other then (name, value) :: (other, held) :: rest
      else if name = other then (name, value) :: rest
      else (other, held) :: insertEntry name value rest

/-- Looking a name up passes the entries of other names. -/
theorem lookup_cons_eq_ite {α : Type} (name key : Text) (value : α) (rest : List (Text × α)) :
    ((key, value) :: rest).lookup name = if name = key then some value else rest.lookup name := by
  by_cases h : name = key
  · simp [h]
  · have hbeq : (name == key) = false := by simpa using h
    simp [List.lookup_cons, h, hbeq]

theorem mem_of_lookup_eq_some {α : Type} {entries : List (Text × α)} {name : Text} {value : α}
    (h : entries.lookup name = some value) : (name, value) ∈ entries := by
  obtain ⟨before, after, hentries, -⟩ := List.lookup_eq_some_iff.1 h
  rw [hentries]
  simp

/-- A name is not found exactly when no entry has it. -/
theorem lookup_eq_none_iff {α : Type} {entries : List (Text × α)} {name : Text} :
    entries.lookup name = none ↔ name ∉ entries.map Prod.fst := by
  simp only [List.lookup_eq_none_iff, bne_iff_ne, List.mem_map, not_exists, not_and, ne_comm]

/-- A list that names each name once has under a name what it lists with it. -/
theorem lookup_eq_some_of_mem {α : Type} {entries : List (Text × α)} {name : Text} {value : α}
    (hnodup : (entries.map Prod.fst).Nodup) (h : (name, value) ∈ entries) :
    entries.lookup name = some value := by
  induction entries with
  | nil => simp at h
  | cons entry rest ih =>
      obtain ⟨hkey, hrest⟩ := List.nodup_cons.1 hnodup
      rw [lookup_cons_eq_ite]
      rcases List.mem_cons.1 h with rfl | h
      · simp
      · have hne : name ≠ entry.1 := by
          intro hsame
          exact hkey (hsame ▸ List.mem_map_of_mem h)
        rw [if_neg hne, ih hrest h]

/-- A name that was put in is found with its value, and all others as before. -/
@[simp] theorem lookup_insertEntry {α : Type} (name other : Text) (value : α)
    (entries : List (Text × α)) :
    (insertEntry name value entries).lookup other =
      if other = name then some value else entries.lookup other := by
  induction entries with
  | nil => simp [insertEntry, lookup_cons_eq_ite]
  | cons entry rest ih =>
      obtain ⟨key, held⟩ := entry
      simp only [insertEntry]
      split
      · simp only [lookup_cons_eq_ite]
      · split
        · next hkey =>
            simp only [lookup_cons_eq_ite, hkey]
            split <;> rfl
        · next hkey =>
            simp only [lookup_cons_eq_ite, ih]
            by_cases h : other = key
            · simp [h, Ne.symm hkey]
            · simp [h]

theorem mem_map_fst_insertEntry {α : Type} {name other : Text} {value : α}
    {entries : List (Text × α)} :
    other ∈ (insertEntry name value entries).map Prod.fst ↔
      other = name ∨ other ∈ entries.map Prod.fst := by
  induction entries with
  | nil => simp [insertEntry]
  | cons entry rest ih =>
      obtain ⟨key, held⟩ := entry
      simp only [insertEntry]
      split
      · simp
      · split
        · next hkey => simp [hkey]
        · simp only [List.map_cons, List.mem_cons, ih]
          grind

/-- Putting a named value in keeps the ascending order of the names. -/
theorem pairwise_map_fst_insertEntry {α : Type} (name : Text) (value : α)
    {entries : List (Text × α)} (h : (entries.map Prod.fst).Pairwise (· < ·)) :
    ((insertEntry name value entries).map Prod.fst).Pairwise (· < ·) := by
  induction entries with
  | nil => simp [insertEntry]
  | cons entry rest ih =>
      obtain ⟨key, held⟩ := entry
      obtain ⟨hhead, hrest⟩ := List.pairwise_cons.1 h
      simp only [insertEntry]
      split
      · next hlt =>
          refine List.pairwise_cons.2 ⟨?_, h⟩
          intro other hother
          rcases List.mem_cons.1 hother with rfl | hmem
          · exact hlt
          · exact List.lt_trans hlt (hhead other hmem)
      · next hlt =>
          split
          · next hkey => subst hkey; exact h
          · next hne =>
              refine List.pairwise_cons.2 ⟨?_, ih hrest⟩
              intro other hother
              rcases mem_map_fst_insertEntry.1 hother with rfl | hmem
              · exact lt_of_not_lt_of_ne hlt hne
              · exact hhead other hmem

end Invoicing.Text
