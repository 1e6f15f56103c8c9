import Invoicing.Json.Reader
import Invoicing.Json.Writer
import Invoicing.Proofs.Decimal.Numeral

/-!
# Documents are read back

`Json.read?_text`: a document with whole numbers only, and with the members of its objects in
ascending order, is what its text is read as.  Such documents are said by `Json.IsExact`, and the
proof follows its constructors.

* A string is read back character by character, whatever it holds
  (`readStringBody?_flatMap_escapeChar`).
* A number ends where a text goes on with a comma or a closing bracket, or ends itself
  (`Delimits`).  Everything else ends by itself, so the whole statement, `Reads`, is about a value
  with such a text behind it.
* The readers of values count down to nothing, so `Reads` also says how far they have to count: the
  length of the text is enough.
-/

namespace Invoicing

namespace Json

/-! ## Strings -/

section Strings

variable (reversed rest : Text)

theorem codeUnit?_hexChar : ∀ unit < 0x20,
    codeUnit? '0' '0' (hexChar (unit / 16)) (hexChar (unit % 16)) = some unit := by
  decide

/-- A character is read back from what stands for it inside a string. -/
theorem readStringBody?_escapeChar_append (char : Char) :
    readStringBody? reversed (escapeChar char ++ rest) =
      readStringBody? (char :: reversed) rest := by
  by_cases hquote : char = '"'
  · subst hquote
    rfl
  by_cases hbackslash : char = '\\'
  · subst hbackslash
    rfl
  by_cases hcontrol : char.toNat < 0x20
  · have hunit := codeUnit?_hexChar char.toNat hcontrol
    have hhigh : isHighSurrogate char.toNat = false := by
      simp only [isHighSurrogate, Bool.and_eq_false_iff, decide_eq_false_iff_not]
      omega
    have hlow : isLowSurrogate char.toNat = false := by
      simp only [isLowSurrogate, Bool.and_eq_false_iff, decide_eq_false_iff_not]
      omega
    have hescape : escapeChar char = ['\\', 'u', '0', '0', hexChar (char.toNat / 16),
        hexChar (char.toNat % 16)] := by
      simp [escapeChar, hquote, hbackslash, hcontrol]
    rw [hescape]
    simp [readStringBody?, hunit, hhigh, hlow]
  · have hescape : escapeChar char = [char] := by
      simp [escapeChar, hquote, hbackslash, hcontrol]
    rw [hescape, List.singleton_append, readStringBody?]
    · rw [if_neg hcontrol]
    · exact hquote
    · rintro _ _ _ _ _ rfl
      exact (hbackslash rfl).elim
    · rintro _ _ rfl
      exact (hbackslash rfl).elim

/-- A string is read back up to its closing quote. -/
theorem readStringBody?_flatMap_escapeChar (content : Text) :
    readStringBody? reversed (content.flatMap escapeChar ++ '"' :: rest) =
      some (reversed.reverse ++ content, rest) := by
  induction content generalizing reversed with
  | nil => simp [readStringBody?]
  | cons char content ih =>
      rw [List.flatMap_cons, List.append_assoc, readStringBody?_escapeChar_append, ih,
        List.reverse_cons, List.append_assoc, List.singleton_append]

end Strings

/-! ## Numbers -/

/-- What may stand behind a value: nothing, a comma or a closing bracket. -/
inductive Delimits : Text → Prop
  /-- The text ends. -/
  | nil : Delimits []
  /-- Another item or member follows. -/
  | comma (rest : Text) : Delimits (',' :: rest)
  /-- An array ends. -/
  | bracket (rest : Text) : Delimits (']' :: rest)
  /-- An object ends. -/
  | brace (rest : Text) : Delimits ('}' :: rest)

section Numbers

variable {rest : Text}

/-- No digits come behind a number. -/
theorem Delimits.takeWhile_isDigit (hrest : Delimits rest) : rest.takeWhile Char.isDigit = [] := by
  cases hrest <;> rfl

theorem takeWhile_isDigit_ofNat_append (number : ℕ) (hrest : Delimits rest) :
    (Text.ofNat number ++ rest).takeWhile Char.isDigit = Text.ofNat number := by
  rw [List.takeWhile_append_of_pos fun _ => Text.isDigit_of_mem_ofNat, hrest.takeWhile_isDigit,
    List.append_nil]

theorem dropWhile_isDigit_ofNat_append (number : ℕ) (hrest : Delimits rest) :
    (Text.ofNat number ++ rest).dropWhile Char.isDigit = rest := by
  rw [List.dropWhile_append_of_pos fun _ => Text.isDigit_of_mem_ofNat]
  cases hrest <;> rfl

theorem length_ofNat_eq_one_or (number : ℕ) :
    (Text.ofNat number).length = 1 ∨ (Text.ofNat number).head? ≠ some '0' := by
  by_cases hzero : number = 0
  · left
    subst hzero
    rfl
  · right
    exact Text.head?_ofNat_ne_zero hzero

theorem wholeNumber?_ofNat {number : Int} (hlow : -2 ^ 63 ≤ number) (hhigh : number < 2 ^ 64) :
    wholeNumber? (number < 0) (Text.ofNat number.natAbs) = some (.whole number) := by
  rw [wholeNumber?, Text.digitsValue_ofNat]
  by_cases hnegative : number < 0
  · have hmagnitude : (number.natAbs ≠ 0 && number.natAbs ≤ 2 ^ 63) = true := by
      simp only [ne_eq, decide_not, Bool.and_eq_true, Bool.not_eq_true', decide_eq_false_iff_not,
        decide_eq_true_eq]
      omega
    have hvalue : -(number.natAbs : Int) = number := by omega
    simp only [hnegative, decide_true, if_true, hmagnitude, hvalue]
  · have hmagnitude : number.natAbs < 2 ^ 64 := by omega
    have hvalue : (number.natAbs : Int) = number := by omega
    simp only [hnegative, decide_false, Bool.false_eq_true, if_false, hmagnitude, if_true, hvalue]

/-- A whole number within 64 bits is read back, whatever ends it. -/
theorem readNumber?_ofInt_append {number : Int} (hlow : -2 ^ 63 ≤ number) (hhigh : number < 2 ^ 64)
    (hrest : Delimits rest) :
    readNumber? (Text.ofInt number ++ rest) = some (.whole number, rest) := by
  have htake := takeWhile_isDigit_ofNat_append number.natAbs hrest
  have hdrop := dropWhile_isDigit_ofNat_append number.natAbs hrest
  have hfirst : (Text.ofNat number.natAbs ≠ [] && ((Text.ofNat number.natAbs).length == 1 ||
      (Text.ofNat number.natAbs).head? != some '0')) = true := by
    simpa [Text.ofNat_ne_nil] using length_ofNat_eq_one_or number.natAbs
  have hwhole := wholeNumber?_ofNat hlow hhigh
  by_cases hnegative : number < 0
  · rw [Text.ofInt, if_pos hnegative, List.cons_append]
    simp only [hnegative, decide_true] at hwhole
    simp only [readNumber?, htake, hdrop, hfirst]
    cases hrest <;> simp [readExponent?, hwhole]
  · rw [Text.ofInt, if_neg hnegative]
    simp only [hnegative, decide_false] at hwhole
    obtain ⟨head, digits, hcons⟩ := List.exists_cons_of_ne_nil (Text.ofNat_ne_nil number.natAbs)
    have hhead : head ∈ Text.ofNat number.natAbs := hcons ▸ List.mem_cons_self ..
    have hminus : head ≠ '-' := Text.ne_of_isDigit (Text.isDigit_of_mem_ofNat hhead) rfl
    rw [hcons, List.cons_append] at htake hdrop
    rw [hcons] at hwhole hfirst
    rw [hcons, List.cons_append]
    simp only [readNumber?, List.cons.injEq, hminus, false_and, imp_false, not_false_eq_true,
      implies_true, htake, hdrop, hfirst]
    cases hrest <;> simp [readExponent?, hwhole]

end Numbers

/-! ## Values -/

/-- A document that its text determines: its numbers are whole and within 64 bits, and the members
of its objects stand in ascending order of their names. -/
inductive IsExact : Json → Prop
  /-- `null`. -/
  | null : IsExact .null
  /-- `true` and `false`. -/
  | bool (flag : Bool) : IsExact (.bool flag)
  /-- A whole number within 64 bits, signed or unsigned. -/
  | whole {number : Int} (hlow : -2 ^ 63 ≤ number) (hhigh : number < 2 ^ 64) :
      IsExact (.number (.whole number))
  /-- Any string. -/
  | string (content : Text) : IsExact (.string content)
  /-- An array of such documents. -/
  | array {items : List Json} (hitems : ∀ item ∈ items, IsExact item) : IsExact (.array items)
  /-- An object of such documents, with ascending names. -/
  | object {members : List (Text × Json)} (hnames : (members.map Prod.fst).Pairwise (· < ·))
      (hvalues : ∀ member ∈ members, IsExact member.2) : IsExact (.object members)

/-- The value is read back when the reader may count as far as its text goes. -/
def Reads (value : Json) : Prop :=
  ∀ fuel rest, value.text.length ≤ fuel → Delimits rest →
    readValue? fuel (value.text ++ rest) = some (value, rest)

/-- Neither white space nor a closing bracket stands at the start of a text, whatever follows. -/
def StartsValue (text : Text) : Prop := ∀ rest : Text, skipSpace (text ++ rest) = text ++ rest ∧
  ∀ more, text ++ rest ≠ ']' :: more ∧ text ++ rest ≠ '}' :: more

theorem ne_of_startsNumber {head other : Char} (h : head = '-' ∨ head.isDigit)
    (hother : (other == '-' || other.isDigit) = false) : head ≠ other := by
  obtain ⟨hminus, hdigit⟩ := Bool.or_eq_false_iff.mp hother
  rcases h with rfl | hhead
  · exact (ne_of_beq_false hminus).symm
  · exact Text.ne_of_isDigit hhead hdigit

/-- A number starts with a minus sign or a digit. -/
theorem exists_ofInt_eq_cons (number : Int) :
    ∃ head more, Text.ofInt number = head :: more ∧ (head = '-' ∨ head.isDigit) := by
  by_cases hnegative : number < 0
  · exact ⟨'-', Text.ofNat number.natAbs, by rw [Text.ofInt, if_pos hnegative], .inl rfl⟩
  · obtain ⟨head, more, hcons⟩ := List.exists_cons_of_ne_nil (Text.ofNat_ne_nil number.natAbs)
    have hhead : head ∈ Text.ofNat number.natAbs := hcons ▸ List.mem_cons_self ..
    refine ⟨head, more, ?_, .inr (Text.isDigit_of_mem_ofNat hhead)⟩
    rw [Text.ofInt, if_neg hnegative, hcons]

theorem startsValue_ofInt (number : Int) : StartsValue (Text.ofInt number) := by
  intro rest
  obtain ⟨head, more, hcons, hhead⟩ := exists_ofInt_eq_cons number
  have hne (other : Char) (hother : (other == '-' || other.isDigit) = false) :
      (head == other) = false :=
    beq_eq_false_iff_ne.mpr (ne_of_startsNumber hhead hother)
  have hspace : (head == ' ' || head == '\t' || head == '\n' || head == '\r') = false := by
    rw [hne ' ' rfl, hne '\t' rfl, hne '\n' rfl, hne '\r' rfl]
    rfl
  rw [hcons, List.cons_append]
  constructor
  · rw [skipSpace, List.dropWhile_cons_of_neg (by simpa using hspace)]
  · intro after
    constructor
    · intro hbracket
      exact ne_of_startsNumber hhead rfl (List.cons.inj hbracket).1
    · intro hbrace
      exact ne_of_startsNumber hhead rfl (List.cons.inj hbrace).1

theorem startsValue_text {value : Json} (h : IsExact value) : StartsValue value.text := by
  intro rest
  cases h with
  | null => exact ⟨rfl, fun _ => ⟨nofun, nofun⟩⟩
  | bool flag => cases flag <;> exact ⟨rfl, fun _ => ⟨nofun, nofun⟩⟩
  | string content => exact ⟨rfl, fun _ => ⟨nofun, nofun⟩⟩
  | array _ => exact ⟨rfl, fun _ => ⟨nofun, nofun⟩⟩
  | object _ _ => exact ⟨rfl, fun _ => ⟨nofun, nofun⟩⟩
  | whole _ _ => exact startsValue_ofInt _ rest

/-- Items are read one after another, each up to its comma or the closing bracket. -/
theorem readItems?_separated {items : List Json} (hne : items ≠ [])
    (hreads : ∀ item ∈ items, Reads item) (fuel : ℕ) (rest : Text)
    (hfuel : (separated ',' (itemTexts items)).length < fuel) :
    readItems? fuel (separated ',' (itemTexts items) ++ ']' :: rest) = some (items, rest) := by
  induction items generalizing fuel with
  | nil => exact absurd rfl hne
  | cons item items ih =>
      obtain ⟨fuel, rfl⟩ : ∃ less, fuel = less + 1 := ⟨fuel - 1, by omega⟩
      have hitem := hreads item (List.mem_cons_self ..)
      cases items with
      | nil =>
          have hread := hitem fuel (']' :: rest) (Nat.le_of_lt_succ hfuel) (.bracket rest)
          simp [readItems?, itemTexts, separated, hread, skipSpace]
      | cons next more =>
          have hlength : (separated ',' (itemTexts (item :: next :: more))).length =
              item.text.length + 1 + (separated ',' (itemTexts (next :: more))).length := by
            simp [itemTexts, separated]
            omega
          have hread := hitem fuel
            (',' :: (separated ',' (itemTexts (next :: more)) ++ ']' :: rest)) (by omega) (.comma _)
          have hmore := ih (List.cons_ne_nil _ _)
            (fun other hother => hreads other (List.mem_cons_of_mem _ hother)) fuel (by omega)
          have htext : separated ',' (itemTexts (item :: next :: more)) ++ ']' :: rest =
              item.text ++ ',' :: (separated ',' (itemTexts (next :: more)) ++ ']' :: rest) := by
            simp [itemTexts, separated]
          rw [htext, readItems?, hread]
          simp [skipSpace, hmore]

/-- Members are read one after another, each with its name and the colon behind it. -/
theorem readMembers?_separated {members : List (Text × Json)} (hne : members ≠ [])
    (hreads : ∀ member ∈ members, Reads member.2) (fuel : ℕ) (rest : Text)
    (hfuel : (separated ',' (memberTexts members)).length < fuel) :
    readMembers? fuel (separated ',' (memberTexts members) ++ '}' :: rest) =
      some (members, rest) := by
  induction members generalizing fuel with
  | nil => exact absurd rfl hne
  | cons member members ih =>
      obtain ⟨name, value⟩ := member
      obtain ⟨fuel, rfl⟩ : ∃ less, fuel = less + 1 := ⟨fuel - 1, by omega⟩
      have hvalue : Reads value := hreads (name, value) (List.mem_cons_self ..)
      have hname (after : Text) := readStringBody?_flatMap_escapeChar [] after name
      cases members with
      | nil =>
          have hlength : (separated ',' (memberTexts [(name, value)])).length =
              (quoted name).length + (1 + value.text.length) := by
            simp [memberTexts, separated]
            omega
          have hread := hvalue fuel ('}' :: rest) (by omega) (.brace rest)
          simp [readMembers?, memberTexts, separated, quoted, hname, hread, skipSpace]
      | cons next more =>
          have hlength : (separated ',' (memberTexts ((name, value) :: next :: more))).length =
              (quoted name).length + (1 + value.text.length) + 1 +
                (separated ',' (memberTexts (next :: more))).length := by
            simp [memberTexts, separated]
            omega
          have hread := hvalue fuel
            (',' :: (separated ',' (memberTexts (next :: more)) ++ '}' :: rest)) (by omega)
            (.comma _)
          have hmore := ih (List.cons_ne_nil _ _)
            (fun other hother => hreads other (List.mem_cons_of_mem _ hother)) fuel (by omega)
          have htext : separated ',' (memberTexts ((name, value) :: next :: more)) ++ '}' :: rest =
              '"' :: (name.flatMap escapeChar ++ '"' :: ':' :: (value.text ++ ',' ::
                (separated ',' (memberTexts (next :: more)) ++ '}' :: rest))) := by
            simp [memberTexts, separated, quoted]
          rw [htext]
          simp [readMembers?, skipSpace, hname, hread, hmore]

/-! ## Objects -/

theorem insertEntry_eq_append {name : Text} {value : Json} {members : List (Text × Json)}
    (h : ∀ other ∈ members.map Prod.fst, other < name) :
    Text.insertEntry name value members = members ++ [(name, value)] := by
  induction members with
  | nil => rfl
  | cons member members ih =>
      have hhead : member.1 < name := h member.1 (by simp)
      have hnot : ¬ name < member.1 := List.not_lt.mpr (List.le_of_lt hhead)
      have hne : name ≠ member.1 := by
        rintro rfl
        exact List.lt_irrefl _ hhead
      rw [Text.insertEntry, if_neg hnot, if_neg hne, ih fun other hother => h other (by simp_all)]
      rfl

theorem foldl_insertEntry_eq_append (sorted : List (Text × Json)) {members : List (Text × Json)}
    (h : ((sorted ++ members).map Prod.fst).Pairwise (· < ·)) :
    members.foldl (fun sorted (name, value) => Text.insertEntry name value sorted) sorted =
      sorted ++ members := by
  induction members generalizing sorted with
  | nil => rw [List.foldl_nil, List.append_nil]
  | cons member members ih =>
      obtain ⟨name, value⟩ := member
      have hlast : ∀ other ∈ sorted.map Prod.fst, other < name := by
        rw [List.map_append, List.pairwise_append] at h
        exact fun other hother => h.2.2 other hother name (by simp)
      have hmove : sorted ++ (name, value) :: members = sorted ++ [(name, value)] ++ members := by
        rw [List.append_assoc, List.singleton_append]
      rw [hmove] at h
      show members.foldl _ (Text.insertEntry name value sorted) = _
      rw [insertEntry_eq_append hlast, ih _ h, hmove]

/-- Members that ascend already stay as they are. -/
theorem ofMembers_of_pairwise {members : List (Text × Json)}
    (h : (members.map Prod.fst).Pairwise (· < ·)) : ofMembers members = .object members := by
  rw [ofMembers, foldl_insertEntry_eq_append [] h, List.nil_append]

/-! ## Documents -/

theorem StartsValue.separated {text : Text} (h : StartsValue text) (texts : List Text) :
    StartsValue (separated ',' (text :: texts)) := by
  intro rest
  cases texts with
  | nil => exact h rest
  | cons next more =>
      have hsplit : Json.separated ',' (text :: next :: more) ++ rest =
          text ++ (',' :: Json.separated ',' (next :: more) ++ rest) := by
        simp [Json.separated]
      rw [hsplit]
      exact h _

theorem skipSpace_bracket (rest : Text) : skipSpace ('[' :: rest) = '[' :: rest := rfl

theorem skipSpace_brace (rest : Text) : skipSpace ('{' :: rest) = '{' :: rest := rfl

theorem readWord?_append (word : String) (value : Json) (rest : Text) :
    readWord? word value (word.toList ++ rest) = some (value, rest) := by
  have hprefix : word.toList.isPrefixOf (word.toList ++ rest) = true :=
    List.isPrefixOf_iff_prefix.mpr (List.prefix_append _ _)
  rw [readWord?, if_pos hprefix, ← String.length_toList, List.drop_left]

/-- Every value takes a character, so the reader counts down at least once. -/
theorem Reads.of_succ {value : Json} (hne : value.text ≠ [])
    (hread : ∀ fuel rest, value.text.length ≤ fuel + 1 → Delimits rest →
      readValue? (fuel + 1) (value.text ++ rest) = some (value, rest)) : Reads value := by
  intro fuel rest hfuel hrest
  have hpos := List.length_pos_iff.mpr hne
  obtain ⟨fuel, rfl⟩ : ∃ less, fuel = less + 1 := ⟨fuel - 1, by omega⟩
  exact hread fuel rest hfuel hrest

theorem reads_null : Reads .null :=
  .of_succ (List.cons_ne_nil _ _) fun _ rest _ _ => readWord?_append "null" .null rest

theorem reads_bool (flag : Bool) : Reads (.bool flag) := by
  cases flag with
  | true =>
      exact .of_succ (List.cons_ne_nil _ _) fun _ rest _ _ =>
        readWord?_append "true" (.bool true) rest
  | false =>
      exact .of_succ (List.cons_ne_nil _ _) fun _ rest _ _ =>
        readWord?_append "false" (.bool false) rest

/-- What starts like a number is read as one. -/
theorem reads_whole {number : Int} (hlow : -2 ^ 63 ≤ number) (hhigh : number < 2 ^ 64) :
    Reads (.number (.whole number)) := by
  obtain ⟨head, more, hcons, hhead⟩ := exists_ofInt_eq_cons number
  have htext : (Json.number (.whole number)).text = head :: more := hcons
  refine .of_succ (by rw [htext]; exact List.cons_ne_nil _ _) fun fuel rest _ hrest => ?_
  have hread := readNumber?_ofInt_append hlow hhigh hrest
  have hspace := (startsValue_ofInt number rest).1
  have hquote : head ≠ '"' := ne_of_startsNumber hhead rfl
  have hbracket : head ≠ '[' := ne_of_startsNumber hhead rfl
  have hbrace : head ≠ '{' := ne_of_startsNumber hhead rfl
  have hnull : head ≠ 'n' := ne_of_startsNumber hhead rfl
  have htrue : head ≠ 't' := ne_of_startsNumber hhead rfl
  have hfalse : head ≠ 'f' := ne_of_startsNumber hhead rfl
  rw [hcons, List.cons_append] at hread hspace
  rw [htext, List.cons_append, readValue?, hspace]
  simp [hquote, hbracket, hbrace, hnull, htrue, hfalse, hread]

theorem reads_string (content : Text) : Reads (.string content) := by
  refine .of_succ (List.cons_ne_nil _ _) fun fuel rest _ _ => ?_
  have hread := readStringBody?_flatMap_escapeChar [] rest content
  simp [text, quoted, readValue?, skipSpace, hread]

/-- An array is read item by item; without items it ends at once. -/
theorem reads_array {items : List Json} (hitems : ∀ item ∈ items, IsExact item)
    (hreads : ∀ item ∈ items, Reads item) : Reads (.array items) := by
  refine .of_succ (List.cons_ne_nil _ _) fun fuel rest hfuel _ => ?_
  have htext : (Json.array items).text ++ rest =
      '[' :: (separated ',' (itemTexts items) ++ ']' :: rest) := by
    simp [text]
  have hlength : (Json.array items).text.length = (separated ',' (itemTexts items)).length + 2 := by
    simp [text]
  rw [htext]
  cases items with
  | nil => rfl
  | cons item items =>
      have hread := readItems?_separated (List.cons_ne_nil item items) hreads fuel rest (by omega)
      have hstart := (startsValue_text (hitems item (List.mem_cons_self ..))).separated
        (itemTexts items) (']' :: rest)
      rw [itemTexts] at hread ⊢
      rw [readValue?, skipSpace_bracket]
      simp only [hstart.1]
      split
      · next hclosed => exact absurd hclosed (hstart.2 _).1
      · rw [hread]
        rfl

/-- An object is read member by member; the members ascend already. -/
theorem reads_object {members : List (Text × Json)}
    (hnames : (members.map Prod.fst).Pairwise (· < ·))
    (hreads : ∀ member ∈ members, Reads member.2) : Reads (.object members) := by
  refine .of_succ (List.cons_ne_nil _ _) fun fuel rest hfuel _ => ?_
  have htext : (Json.object members).text ++ rest =
      '{' :: (separated ',' (memberTexts members) ++ '}' :: rest) := by
    simp [text]
  have hlength : (Json.object members).text.length =
      (separated ',' (memberTexts members)).length + 2 := by
    simp [text]
  rw [htext]
  cases members with
  | nil => rfl
  | cons member members =>
      obtain ⟨name, value⟩ := member
      have hread := readMembers?_separated (List.cons_ne_nil (name, value) members) hreads fuel rest
        (by omega)
      have hquoted : StartsValue (quoted name ++ (':' :: value.text)) :=
        fun _ => ⟨rfl, fun _ => ⟨nofun, nofun⟩⟩
      have hstart := hquoted.separated (memberTexts members) ('}' :: rest)
      rw [memberTexts] at hread ⊢
      rw [readValue?, skipSpace_brace]
      simp only [hstart.1]
      split
      · next hclosed => exact absurd hclosed (hstart.2 _).2
      · rw [hread]
        simp [ofMembers_of_pairwise hnames]

theorem reads_of_isExact {value : Json} (h : IsExact value) : Reads value := by
  induction h with
  | null => exact reads_null
  | bool flag => exact reads_bool flag
  | whole hlow hhigh => exact reads_whole hlow hhigh
  | string content => exact reads_string content
  | array hitems ih => exact reads_array hitems ih
  | object hnames _ ih => exact reads_object hnames ih

/-- **Reading undoes writing**, for every document that its text determines. -/
theorem read?_text {value : Json} (h : IsExact value) : read? value.text = some value := by
  have hread := reads_of_isExact h (value.text.length + 1) [] (Nat.le_succ _) .nil
  rw [List.append_nil] at hread
  rw [read?, hread, Option.bind_eq_bind, Option.bind_some]
  rfl

end Json

end Invoicing
