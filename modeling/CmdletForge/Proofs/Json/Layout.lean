import CmdletForge.Json.Printer
import Mathlib.Data.List.Basic

/-!
# The layout of JSON text

What the printed text of a value is made of: strings whose characters are escaped one by one, numbers
and words, and containers with one text a line. A character is *plain* if it is not escaped.
-/

namespace CmdletForge.Json

/-! ## Values -/

/-- A value has a property if the parts of a container hand it on. -/
@[elab_as_elim]
theorem induction {P : Json → Prop} (null : P .null) (bool : ∀ b, P (.bool b)) (num : ∀ n, P (.num n))
    (str : ∀ s, P (.str s)) (arr : ∀ items, (∀ item ∈ items, P item) → P (.arr items))
    (obj : ∀ entries, (∀ entry ∈ entries, P entry.2) → P (.obj entries)) (value : Json) : P value :=
  @Json.rec P (fun items => ∀ item ∈ items, P item) (fun entries => ∀ entry ∈ entries, P entry.2)
    (fun entry => P entry.2) null bool num str arr obj (by simp)
    (fun _ _ first rest => List.forall_mem_cons.2 ⟨first, rest⟩) (by simp)
    (fun _ _ first rest => List.forall_mem_cons.2 ⟨first, rest⟩) (fun _ _ value => value) value

mutual

/-- The value with its strings changed, keys and values alike. -/
def mapTexts (f : String → String) : Json → Json
  | .str s => .str (f s)
  | .arr items => .arr (mapItems f items)
  | .obj entries => .obj (mapEntries f entries)
  | value => value

/-- The items with their strings changed. -/
def mapItems (f : String → String) : List Json → List Json
  | [] => []
  | item :: rest => mapTexts f item :: mapItems f rest

/-- The entries with their strings changed. -/
def mapEntries (f : String → String) : List (String × Json) → List (String × Json)
  | [] => []
  | (key, value) :: rest => (f key, mapTexts f value) :: mapEntries f rest

end

mutual

/-- The strings of a value, keys and values alike. -/
def texts : Json → List String
  | .str s => [s]
  | .arr items => textsOfItems items
  | .obj entries => textsOfEntries entries
  | _ => []

/-- The strings of items. -/
def textsOfItems : List Json → List String
  | [] => []
  | item :: rest => texts item ++ textsOfItems rest

/-- The strings of entries. -/
def textsOfEntries : List (String × Json) → List String
  | [] => []
  | (key, value) :: rest => key :: texts value ++ textsOfEntries rest

end

variable {f : String → String} {items : List Json} {entries : List (String × Json)}

@[simp] theorem mapTexts_arr : (Json.arr items).mapTexts f = .arr (items.map (mapTexts f)) := by
  have same : mapItems f items = items.map (mapTexts f) := by
    induction items with
    | nil => rfl
    | cons item rest ih => rw [mapItems, ih, List.map_cons]
  rw [mapTexts, same]

@[simp] theorem mapTexts_obj : (Json.obj entries).mapTexts f =
    .obj (entries.map fun entry => (f entry.1, entry.2.mapTexts f)) := by
  have same : mapEntries f entries = entries.map fun entry => (f entry.1, entry.2.mapTexts f) := by
    induction entries with
    | nil => rfl
    | cons entry rest ih => rw [mapEntries, ih, List.map_cons]
  rw [mapTexts, same]

theorem texts_subset_of_mem_items {item : Json} (mem : item ∈ items) :
    item.texts ⊆ (Json.arr items).texts := by
  rw [texts]
  induction items with
  | nil => contradiction
  | cons first rest ih =>
    rw [textsOfItems]
    rcases List.mem_cons.1 mem with rfl | mem
    · exact List.subset_append_left ..
    · exact List.subset_append_of_subset_right _ (ih mem)

theorem texts_subset_of_mem_entries {entry : String × Json} (mem : entry ∈ entries) :
    entry.1 :: entry.2.texts ⊆ (Json.obj entries).texts := by
  rw [texts]
  induction entries with
  | nil => contradiction
  | cons first rest ih =>
    rw [textsOfEntries]
    rcases List.mem_cons.1 mem with rfl | mem
    · exact List.subset_append_left ..
    · exact List.subset_append_of_subset_right _ (ih mem)

/-! ## Strings -/

/-- A character that stands for itself in a string: no double quote, no backslash and no control
character below U+0020. -/
def Plain (c : Char) : Prop := c ≠ '"' ∧ c ≠ '\\' ∧ 0x20 ≤ c.toNat

instance : DecidablePred Plain := fun _ => inferInstanceAs (Decidable (_ ∧ _ ∧ _))

/-- A property is checked of the characters of a text only, not of all characters there are. -/
instance (text : List Char) (P : Char → Prop) [DecidablePred P] : Decidable (∀ c ∈ text, P c) :=
  List.decidableBAll P text

/-- The characters that are not plain are these. -/
theorem of_special {P : Char → Prop} (quote : P '"') (backslash : P '\\')
    (control : ∀ n < 0x20, P (Char.ofNat n)) {c : Char} (special : ¬ Plain c) : P c := by
  by_cases first : c = '"'
  · exact first ▸ quote
  by_cases second : c = '\\'
  · exact second ▸ backslash
  have low : c.toNat < 0x20 := Nat.lt_of_not_le fun high => special ⟨first, second, high⟩
  have held := control c.toNat low
  rwa [Char.ofNat_toNat] at held

theorem escapeChar_of_plain {c : Char} (plain : Plain c) : escapeChar c = [c] := by
  have short : ∀ d, d.toNat < 0x20 → c ≠ d := by
    rintro d low rfl
    exact absurd plain.2.2 (by omega)
  unfold escapeChar
  rw [if_neg plain.1, if_neg plain.2.1, if_neg (short _ (by decide)), if_neg (short _ (by decide)),
    if_neg (short _ (by decide)), if_neg (short _ (by decide)), if_neg (short _ (by decide)),
    if_neg (by have := plain.2.2; omega)]

theorem escapeChar_of_special {c : Char} (special : ¬ Plain c) : (escapeChar c).head? = some '\\' := by
  refine of_special (P := fun c => (escapeChar c).head? = some '\\') ?_ ?_ ?_ special <;> decide

/-- The characters of a string between its quotes. -/
def escape (text : List Char) : List Char := text.flatMap escapeChar

theorem quoted_eq (s : String) : quoted s = '"' :: (escape s.toList ++ ['"']) := rfl

theorem escape_cons (c : Char) (text : List Char) : escape (c :: text) = escapeChar c ++ escape text :=
  rfl

theorem escape_append (text more : List Char) : escape (text ++ more) = escape text ++ escape more :=
  List.flatMap_append

theorem escape_of_plain {text : List Char} (plain : ∀ c ∈ text, Plain c) : escape text = text := by
  induction text with
  | nil => rfl
  | cons c rest ih =>
    obtain ⟨first, others⟩ := List.forall_mem_cons.1 plain
    rw [escape_cons, escapeChar_of_plain first, ih others]
    rfl

/-- Plain text starts an escaped string if and only if it starts the string. -/
theorem prefix_escape_iff {literal text rest : List Char} (plain : ∀ c ∈ literal, Plain c) :
    literal <+: escape text ++ '"' :: rest ↔ literal <+: text := by
  induction literal generalizing text with
  | nil => simp
  | cons a more ih =>
    obtain ⟨first, others⟩ := List.forall_mem_cons.1 plain
    cases text with
    | nil => simp [escape, List.cons_prefix_cons, first.1]
    | cons c text =>
      rw [escape_cons]
      by_cases stands : Plain c
      · rw [escapeChar_of_plain stands, List.cons_append, List.cons_append, List.cons_prefix_cons,
          List.cons_prefix_cons, List.nil_append, ih others]
      · obtain ⟨more', escaped⟩ := List.head?_eq_some_iff.1 (escapeChar_of_special stands)
        have differ : a ≠ c := fun same => stands (same ▸ first)
        rw [escaped]
        simp [List.cons_prefix_cons, differ, first.2.1]

/-! ## Numbers -/

/-- The characters that numbers are written with. -/
def numerals : List Char := "0123456789-+.e".toList

/-- The text is written with these. -/
def Numeric (text : String) : Prop := ∀ c ∈ text.toList, c ∈ numerals

instance (text : String) : Decidable (Numeric text) :=
  inferInstanceAs (Decidable (∀ c ∈ text.toList, c ∈ numerals))

theorem Numeric.append {text more : String} (h : Numeric text) (h' : Numeric more) :
    Numeric (text ++ more) := by
  intro c mem
  rw [String.toList_append] at mem
  exact (List.mem_append.1 mem).elim (h c) (h' c)

theorem Numeric.ite {text more : String} {P : Prop} [Decidable P] (h : Numeric text)
    (h' : Numeric more) : Numeric (if P then text else more) := by
  split
  · exact h
  · exact h'

theorem mem_numerals_of_isDigit {c : Char} (digit : c.isDigit = true) : c ∈ numerals := by
  have all : ∀ n < 58, (Char.ofNat n).isDigit = true → Char.ofNat n ∈ numerals := by decide
  have low : c.toNat < 58 := by
    simp only [Char.isDigit, Bool.and_eq_true, decide_eq_true_eq] at digit
    exact Nat.lt_succ_of_le (UInt32.le_iff_toNat_le.1 digit.2)
  have held := all c.toNat low
  rw [Char.ofNat_toNat] at held
  exact held digit

theorem numeric_digits {digits : List Char} {n : Nat} (part : digits ⊆ Nat.toDigits 10 n) :
    Numeric (String.ofList digits) := by
  intro c mem
  rw [String.toList_ofList] at mem
  exact mem_numerals_of_isDigit (Nat.isDigit_of_mem_toDigits (by decide) (by decide) (part mem))

theorem numeric_toString (n : Nat) : Numeric (toString n) := by
  rw [Nat.toString_eq_ofList_toDigits]
  exact numeric_digits (List.Subset.refl _)

theorem numeric_positional (d : Decimal) : Numeric d.positional := by
  have zeros : ∀ n, Numeric (Decimal.zeros n) := by
    intro n c mem
    rw [Decimal.zeros, String.toList_ofList] at mem
    rw [List.eq_of_mem_replicate mem]
    decide
  have point : Numeric "." := by decide
  unfold Decimal.positional
  refine .ite ?_ (.ite ?_ ?_)
  · exact (Numeric.append (by decide) (zeros _)).append (numeric_digits (List.Subset.refl _))
  · exact ((numeric_digits (List.Subset.refl _)).append (zeros _)).append (by decide)
  · exact ((numeric_digits (List.take_subset _ _)).append point).append
      (numeric_digits (List.drop_subset _ _))

theorem numeric_scientific {raised : String} (h : Numeric raised) (d : Decimal) :
    Numeric (d.scientific raised) := by
  have fraction : Numeric (if (Nat.toDigits 10 d.digits).length ≤ 1 then ""
      else "." ++ String.ofList ((Nat.toDigits 10 d.digits).drop 1)) :=
    .ite (by decide) (Numeric.append (by decide) (numeric_digits (List.drop_subset _ _)))
  unfold Decimal.scientific
  exact (((numeric_digits (List.take_subset _ _)).append fraction).append
    (.ite (by decide) h)).append (numeric_toString _)

/-- Numbers are written with numerals only. -/
theorem numeric_numberText (n : Number) : Numeric (numberText n) := by
  cases n with
  | int n =>
    rw [numberText, Int.toString_eq_repr, Int.repr_eq_if]
    have digits : ∀ n : Nat, Numeric n.repr := fun n => Nat.toString_eq_repr ▸ numeric_toString n
    exact .ite (digits _) (Numeric.append (by decide) (digits _))
  | float x =>
    rw [numberText, Decimal.dataText, Decimal.signed]
    refine Numeric.append (.ite (by decide) (by decide)) ?_
    unfold Decimal.adaptive
    exact .ite (numeric_positional _) (numeric_scientific (by decide) _)

/-- The number of dots in a text. -/
def dots (text : String) : Nat := text.toList.count '.'

theorem dots_append (text more : String) : dots (text ++ more) = dots text + dots more := by
  rw [dots, String.toList_append, List.count_append, dots, dots]

theorem dots_digits {digits : List Char} {n : Nat} (part : digits ⊆ Nat.toDigits 10 n) :
    dots (String.ofList digits) = 0 := by
  rw [dots, String.toList_ofList, List.count_eq_zero]
  intro mem
  have digit := Nat.isDigit_of_mem_toDigits (by decide) (by decide) (part mem)
  exact absurd digit (by decide)

theorem dots_toString (n : Nat) : dots (toString n) = 0 := by
  rw [Nat.toString_eq_ofList_toDigits]
  exact dots_digits (List.Subset.refl _)

theorem dots_positional (d : Decimal) : dots d.positional = 1 := by
  have zeros (n : Nat) : dots (Decimal.zeros n) = 0 := by
    rw [dots, Decimal.zeros, String.toList_ofList, List.count_eq_zero]
    exact fun mem => absurd (List.eq_of_mem_replicate mem) (by decide)
  have lead : dots "0." = 1 := by decide
  have trail : dots ".0" = 1 := by decide
  have point : dots "." = 1 := by decide
  unfold Decimal.positional
  dsimp only
  split_ifs
  · rw [dots_append, dots_append, lead, zeros, dots_digits (List.Subset.refl _)]
  · rw [dots_append, dots_append, dots_digits (List.Subset.refl _), zeros, trail]
  · rw [dots_append, dots_append, dots_digits (List.take_subset _ _), point,
      dots_digits (List.drop_subset _ _)]

theorem dots_scientific {raised : String} (none : dots raised = 0) (d : Decimal) :
    dots (d.scientific raised) ≤ 1 := by
  have fraction : dots (if (Nat.toDigits 10 d.digits).length ≤ 1 then ""
      else "." ++ String.ofList ((Nat.toDigits 10 d.digits).drop 1)) ≤ 1 := by
    split
    · decide
    · rw [dots_append, dots_digits (List.drop_subset _ _)]
      decide
  have sign (place : Int) : dots (if place < 0 then "e-" else raised) = 0 := by
    split
    · decide
    · exact none
  unfold Decimal.scientific
  dsimp only
  rw [dots_append, dots_append, dots_append, dots_digits (List.take_subset _ _), sign, dots_toString]
  omega

/-- No number has more than one dot. -/
theorem dots_numberText (n : Number) : dots (numberText n) ≤ 1 := by
  have digits (n : Nat) : dots n.repr = 0 := Nat.toString_eq_repr ▸ dots_toString n
  cases n with
  | int n =>
    rw [numberText, Int.toString_eq_repr, Int.repr_eq_if]
    split
    · rw [digits]
      decide
    · rw [dots_append, digits]
      decide
  | float x =>
    have sign (bits : Nat) : dots (if Nat.pow 2 63 ≤ bits then "-" else "") = 0 := by split <;> decide
    rw [numberText, Decimal.dataText, Decimal.signed, dots_append, sign, Nat.zero_add]
    unfold Decimal.adaptive
    dsimp only
    split
    · exact Nat.le_of_eq (dots_positional _)
    · exact dots_scientific (by decide) _

/-! ## Containers -/

/-- Texts on a line each, commas between them. -/
def listed (indent : Nat) : List (List Char) → List Char
  | [] => []
  | [text] => newline indent ++ text
  | text :: rest => newline indent ++ text ++ ',' :: listed indent rest

/-- Texts after others. -/
def trail (indent : Nat) : List (List Char) → List Char
  | [] => []
  | texts => ',' :: listed indent texts

/-- What stands between the marks of a container. -/
def block (indent : Nat) : List (List Char) → List Char
  | [] => []
  | texts => listed (indent + 1) texts ++ newline indent

theorem listed_cons (indent : Nat) (text : List Char) (rest : List (List Char)) :
    listed indent (text :: rest) = newline indent ++ (text ++ trail indent rest) := by
  cases rest <;> simp [listed, trail]

theorem trail_cons (indent : Nat) (text : List Char) (rest : List (List Char)) :
    trail indent (text :: rest) = ',' :: (newline indent ++ (text ++ trail indent rest)) := by
  rw [← listed_cons, trail]
  simp

theorem block_cons (indent : Nat) (text : List Char) (rest : List (List Char)) :
    block indent (text :: rest) =
      newline (indent + 1) ++ (text ++ (trail (indent + 1) rest ++ newline indent)) := by
  rw [block, listed_cons]
  · simp
  · simp

theorem length_le_trail (indent : Nat) (texts : List (List Char)) :
    texts.length ≤ (trail indent texts).length := by
  induction texts with
  | nil => exact Nat.zero_le _
  | cons text rest ih =>
    simp only [trail_cons, List.length_cons, List.length_append]
    omega

theorem length_le_block (indent : Nat) (texts : List (List Char)) :
    texts.length ≤ (block indent texts).length := by
  cases texts with
  | nil => exact Nat.zero_le _
  | cons text rest =>
    have := length_le_trail (indent + 1) rest
    simp only [block_cons, newline, List.length_cons, List.length_append]
    omega

/-- The text of an entry. -/
def entryText (indent : Nat) (entry : String × Json) : List Char :=
  quoted entry.1 ++ ':' :: ' ' :: prettyChars indent entry.2

theorem prettyItems_eq (indent : Nat) (items : List Json) :
    prettyItems indent items = listed indent (items.map (prettyChars indent)) := by
  induction items with
  | nil => rfl
  | cons item rest ih =>
    cases rest with
    | nil => rfl
    | cons next rest =>
      rw [List.map_cons, List.map_cons, listed, ← List.map_cons, ← ih]
      · rfl
      · simp

theorem prettyEntries_eq (indent : Nat) (entries : List (String × Json)) :
    prettyEntries indent entries = listed indent (entries.map (entryText indent)) := by
  induction entries with
  | nil => rfl
  | cons entry rest ih =>
    cases rest with
    | nil => simp [prettyEntries, listed, entryText]
    | cons next rest =>
      rw [List.map_cons, List.map_cons, listed, ← List.map_cons, ← ih]
      · simp [prettyEntries, entryText]
      · simp

theorem prettyChars_str (indent : Nat) (s : String) : prettyChars indent (.str s) = quoted s := rfl

theorem prettyChars_arr (indent : Nat) (items : List Json) : prettyChars indent (.arr items) =
    '[' :: (block indent (items.map (prettyChars (indent + 1))) ++ [']']) := by
  cases items with
  | nil => rfl
  | cons item rest =>
    rw [prettyChars, prettyItems_eq]
    · simp [block]
    · simp

theorem prettyChars_obj (indent : Nat) (entries : List (String × Json)) :
    prettyChars indent (.obj entries) =
      '{' :: (block indent (entries.map (entryText (indent + 1))) ++ ['}']) := by
  cases entries with
  | nil => rfl
  | cons entry rest =>
    rw [prettyChars, prettyEntries_eq]
    · simp [block]
    · simp

end CmdletForge.Json
