import CmdletForge.Proofs.Naming.Beginnings

/-!
# Names of ASCII texts

What `PascalCase` does to an ASCII text is to leave out what is no letter and no digit, and to change the case
of letters. Letters are compared without their case by `Char.toLower`, which knows no others than ASCII. Words
of an ASCII text consist of small letters and digits, and these are their own lowercase.
-/

namespace CmdletForge.Naming
open CmdletForge.Text

/-- What holds of the code points of ASCII holds of its characters. -/
theorem forall_ascii {p : Char → Prop} (all : ∀ n < 0x80, p (Char.ofNat n)) {c : Char}
    (ascii : c.toNat < 0x80) : p c := by
  have here := all c.toNat ascii
  rwa [Char.ofNat_toNat] at here

/-- Of the tables of a case map only the first run is about ASCII. -/
theorem mapCase_of_ascii {first : CaseRun} {runs : List CaseRun} {spelled : List (Nat × List Nat)} {c : Char}
    (beyond : ∀ run ∈ runs, 0x80 ≤ run.first) (beyondSpelled : ∀ entry ∈ spelled, 0x80 ≤ entry.1)
    (ascii : c.toNat < 0x80) : mapCase (first :: runs) spelled c = mapCase [first] [] c := by
  have unlisted : spelled.lookup c.toNat = none := by
    rw [List.lookup_eq_none_iff]
    intro entry mem
    have other := beyondSpelled entry mem
    rw [bne_iff_ne]
    omega
  have uncovered : runs.findSome? (·.image? c.toNat) = none := by
    rw [List.findSome?_eq_none_iff]
    intro run mem
    have other := beyond run mem
    exact if_neg (by omega)
  simp only [mapCase, unlisted, List.lookup_nil, List.findSome?_cons, uncovered, List.findSome?_nil]

theorem toLower_eq_of_ascii {c : Char} (ascii : c.toNat < 0x80) :
    toLower c = mapCase [⟨0x41, 0x5A, 1, 0x61⟩] [] c :=
  mapCase_of_ascii (by decide +kernel) (by decide +kernel) ascii

theorem toUpper_eq_of_ascii {c : Char} (ascii : c.toNat < 0x80) :
    toUpper c = mapCase [⟨0x61, 0x7A, 1, 0x41⟩] [] c :=
  mapCase_of_ascii (by decide +kernel) (by decide +kernel) ascii

/-- How a character of ASCII is cased, one character at a time and as the first runs of the tables have it. -/
structure AsciiCasing (c : Char) : Prop where
  lower : mapCase [⟨0x41, 0x5A, 1, 0x61⟩] [] c = [c.toLower]
  ascii : c.toLower.toNat < 0x80
  again : c.toLower.toLower = c.toLower
  recased : (mapCase [⟨0x61, 0x7A, 1, 0x41⟩] [] c.toLower).map Char.toLower = [c.toLower]
  small : 0x41 ≤ c.toNat ∧ c.toNat ≤ 0x5A → 0x61 ≤ c.toLower.toNat ∧ c.toLower.toNat ≤ 0x7A
  upper : c.isLower = true → mapCase [⟨0x61, 0x7A, 1, 0x41⟩] [] c = [c.toUpper]
  capital : c.isLower = true → c.toUpper.isUpper = true ∧ c.toUpper.toLower = c

theorem asciiCasing {c : Char} (ascii : c.toNat < 0x80) : AsciiCasing c where
  lower := forall_ascii (p := fun c => mapCase [⟨0x41, 0x5A, 1, 0x61⟩] [] c = [c.toLower])
    (by decide +kernel) ascii
  ascii := forall_ascii (p := fun c => c.toLower.toNat < 0x80) (by decide +kernel) ascii
  again := forall_ascii (p := fun c => c.toLower.toLower = c.toLower) (by decide +kernel) ascii
  recased := forall_ascii
    (p := fun c => (mapCase [⟨0x61, 0x7A, 1, 0x41⟩] [] c.toLower).map Char.toLower = [c.toLower])
    (by decide +kernel) ascii
  small := forall_ascii
    (p := fun c => 0x41 ≤ c.toNat ∧ c.toNat ≤ 0x5A → 0x61 ≤ c.toLower.toNat ∧ c.toLower.toNat ≤ 0x7A)
    (by decide +kernel) ascii
  upper := forall_ascii
    (p := fun c => c.isLower = true → mapCase [⟨0x61, 0x7A, 1, 0x41⟩] [] c = [c.toUpper])
    (by decide +kernel) ascii
  capital := forall_ascii
    (p := fun c => c.isLower = true → c.toUpper.isUpper = true ∧ c.toUpper.toLower = c)
    (by decide +kernel) ascii

theorem toLower_of_ascii {c : Char} (ascii : c.toNat < 0x80) :
    toLower c = [c.toLower] ∧ c.toLower.toNat < 0x80 := by
  rw [toLower_eq_of_ascii ascii]
  exact ⟨(asciiCasing ascii).lower, (asciiCasing ascii).ascii⟩

/-- Casing a small ASCII letter changes no more than its case. -/
theorem recased_of_ascii {c : Char} (ascii : c.toNat < 0x80) :
    (toUpper c.toLower).map Char.toLower = [c.toLower] ∧
      (toLower c.toLower).map Char.toLower = [c.toLower] := by
  have again := (asciiCasing ascii).again
  have lowered := (toLower_of_ascii ascii).2
  rw [toUpper_eq_of_ascii lowered, (toLower_of_ascii lowered).1, List.map_singleton, again, again]
  exact ⟨(asciiCasing ascii).recased, rfl⟩

/-- Leaving case out makes a capital small and changes nothing else. -/
theorem toLower_cases (c : Char) :
    (0x41 ≤ c.toNat ∧ c.toNat ≤ 0x5A) ∧ (0x61 ≤ c.toLower.toNat ∧ c.toLower.toNat ≤ 0x7A) ∨
      ¬ (0x41 ≤ c.toNat ∧ c.toNat ≤ 0x5A) ∧ c.toLower = c := by
  by_cases capital : 0x41 ≤ c.toNat ∧ c.toNat ≤ 0x5A
  · exact .inl ⟨capital, (asciiCasing (by omega)).small capital⟩
  · exact .inr ⟨capital, dif_neg capital⟩

/-- A character that is no part of a word is told from all others without case. -/
theorem eq_of_toLower_eq {c d : Char} (apart : isAlphanumeric c = false) (same : d.toLower = c.toLower) :
    d = c := by
  have noLetter : ¬ (0x41 ≤ c.toNat ∧ c.toNat ≤ 0x5A ∨ 0x61 ≤ c.toNat ∧ c.toNat ≤ 0x7A) := by
    intro letter
    rw [isAlphanumeric_of_letter letter] at apart
    contradiction
  rcases toLower_cases c with ⟨capital, -⟩ | ⟨-, still⟩
  · exact absurd (.inl capital) noLetter
  · rw [still] at same
    rcases toLower_cases d with ⟨-, small⟩ | ⟨-, still'⟩
    · rw [same] at small
      exact absurd (.inr small) noLetter
    · rw [← same, still']

/-! ## Words -/

theorem capitalize_lowered {piece : List Char} (ascii : ∀ c ∈ piece, c.toNat < 0x80) :
    (capitalize (String.ofList (piece.flatMap toLower))).toList.map Char.toLower =
      piece.map Char.toLower := by
  have lowered : ∀ cs : List Char, (∀ c ∈ cs, c.toNat < 0x80) →
      cs.flatMap toLower = cs.map Char.toLower := by
    intro cs ascii
    rw [List.map_eq_flatMap]
    exact List.flatMap_congr fun c mem => (toLower_of_ascii (ascii c mem)).1
  cases piece with
  | nil => rfl
  | cons c cs =>
    have first := recased_of_ascii (ascii c (by simp))
    have rest : ((cs.map Char.toLower).flatMap toLower).map Char.toLower = cs.map Char.toLower := by
      rw [List.flatMap_map, List.map_flatMap, List.map_eq_flatMap]
      exact List.flatMap_congr fun d mem => (recased_of_ascii (ascii d (by simp [mem]))).2
    rw [lowered (c :: cs) ascii, List.map_cons]
    simp only [capitalize, String.toList_ofList, List.map_append, first.1, rest]
    rfl

/-- An ASCII text in `PascalCase` reads as its letters and digits do, but for the case of letters. -/
theorem toPascalCase_of_ascii {identifier : String} (ascii : ∀ c ∈ identifier.toList, c.toNat < 0x80) :
    (toPascalCase identifier).toList.map Char.toLower =
      (identifier.toList.filter isAlphanumeric).map Char.toLower := by
  have inside : ∀ piece ∈ pieces identifier.toList, ∀ c ∈ piece, c.toNat < 0x80 :=
    fun piece mem c its => ascii c (List.mem_of_mem_filter (mem_filter_of_mem_pieces mem its))
  rw [toPascalCase, pascalCase, words, String.toList_join, List.map_map, List.flatMap_map,
    List.map_flatMap, ← flatten_pieces, List.map_flatten, ← List.flatMap_def]
  exact List.flatMap_congr fun piece mem => capitalize_lowered (inside piece mem)

/-- An ASCII text that reads as a name does, but for the case of letters, is its own name but for that. -/
theorem toPascalCase_of_reads {identifier name : String} (ascii : ∀ c ∈ identifier.toList, c.toNat < 0x80)
    (outside : ∀ x, Outside x → x ∉ name.toList)
    (same : identifier.toList.map Char.toLower = name.toList.map Char.toLower) :
    (toPascalCase identifier).toList.map Char.toLower = identifier.toList.map Char.toLower := by
  -- A character that is left out would stand in the name, which has none of this kind.
  have plain : ∀ c ∈ identifier.toList, isAlphanumeric c = true := by
    intro c mem
    by_contra other
    rw [Bool.not_eq_true] at other
    have lowered : c.toLower ∈ name.toList.map Char.toLower := by
      rw [← same]
      exact List.mem_map_of_mem mem
    obtain ⟨d, its, reads⟩ := List.mem_map.1 lowered
    obtain rfl := eq_of_toLower_eq other reads
    exact outside d (outside_of_ascii (ascii d mem) other) its
  rw [toPascalCase_of_ascii ascii, List.filter_eq_self.2 plain]

/-! ## Small letters, digits and capitals -/

/-- A small letter or a digit of ASCII. -/
def Small (c : Char) : Prop := c.isLower = true ∨ c.isDigit = true

instance (c : Char) : Decidable (Small c) := inferInstanceAs (Decidable (_ ∨ _))

/-- No code point of a range is in any of a list. -/
def apartFrom (ranges : List (Nat × Nat)) (first last : Nat) : Bool :=
  ranges.all fun r => r.2.blt first || last.blt r.1

theorem not_inRanges_of_apartFrom {ranges : List (Nat × Nat)} {first last code : Nat}
    (apart : apartFrom ranges first last = true) (inside : first ≤ code ∧ code ≤ last) :
    inRanges ranges code = false := by
  rw [← Bool.not_eq_true]
  intro known
  obtain ⟨r, mem, low, high⟩ := inRanges_iff.1 known
  have other := List.all_eq_true.1 apart r mem
  simp only [Bool.or_eq_true, Nat.blt_eq] at other
  omega

/-- What the tables say of the letters and digits of ASCII. -/
structure AsciiTables : Prop where
  letters : (alphabeticRanges.all fun r => r == (0x41, 0x5A) || r == (0x61, 0x7A) || Nat.ble 0x80 r.1) = true
  numbers : (numericRanges.all fun r => r == (0x30, 0x39) || Nat.ble 0x80 r.1) = true
  uppercase : within uppercaseRanges 0x41 0x5A = true
  lowercase : within lowercaseRanges 0x61 0x7A = true
  notUppercase : (apartFrom uppercaseRanges 0x30 0x39 && apartFrom uppercaseRanges 0x61 0x7A) = true
  notLowercase : (apartFrom lowercaseRanges 0x30 0x39 && apartFrom lowercaseRanges 0x41 0x5A) = true
  notNumeric : apartFrom numericRanges 0x41 0x5A = true

theorem asciiTables : AsciiTables := by
  constructor <;> decide +kernel

/-- The letters and numbers of ASCII. -/
theorem letter_of_ascii {c : Char} (ascii : c.toNat < 0x80) (alnum : isAlphanumeric c = true) :
    (0x41 ≤ c.toNat ∧ c.toNat ≤ 0x5A) ∨ (0x61 ≤ c.toNat ∧ c.toNat ≤ 0x7A) ∨
      (0x30 ≤ c.toNat ∧ c.toNat ≤ 0x39) := by
  rcases Bool.or_eq_true_iff.1 alnum with letter | number
  · obtain ⟨r, mem, low, high⟩ := inRanges_iff.1 letter
    have known := List.all_eq_true.1 asciiTables.letters r mem
    simp only [Bool.or_eq_true, beq_iff_eq, Nat.ble_eq] at known
    obtain (rfl | rfl) | beyond := known
    · exact .inl ⟨low, high⟩
    · exact .inr (.inl ⟨low, high⟩)
    · omega
  · obtain ⟨r, mem, low, high⟩ := inRanges_iff.1 number
    have known := List.all_eq_true.1 asciiTables.numbers r mem
    simp only [Bool.or_eq_true, beq_iff_eq, Nat.ble_eq] at known
    obtain rfl | beyond := known
    · exact .inr (.inr ⟨low, high⟩)
    · omega

theorem isLower_iff_toNat {c : Char} : c.isLower = true ↔ 0x61 ≤ c.toNat ∧ c.toNat ≤ 0x7A := by
  have range : c.isLower = (decide (c.val ≥ 'a'.val) && decide (c.val ≤ 'z'.val)) := rfl
  rw [range, Bool.and_eq_true, decide_eq_true_eq, decide_eq_true_eq]
  exact Iff.rfl

theorem isUpper_iff_toNat {c : Char} : c.isUpper = true ↔ 0x41 ≤ c.toNat ∧ c.toNat ≤ 0x5A := by
  have range : c.isUpper = decide (c.val ≥ 'A'.val ∧ c.val ≤ 'Z'.val) := rfl
  rw [range, decide_eq_true_eq]
  exact Iff.rfl

theorem isAlpha_iff {c : Char} : c.isAlpha = true ↔ c.isUpper = true ∨ c.isLower = true :=
  Bool.or_eq_true_iff

theorem isAlpha_of_isLower {c : Char} (letter : c.isLower = true) : c.isAlpha = true :=
  isAlpha_iff.2 (.inr letter)

section Small

variable {c : Char}

theorem small_iff : Small c ↔ 0x61 ≤ c.toNat ∧ c.toNat ≤ 0x7A ∨ 0x30 ≤ c.toNat ∧ c.toNat ≤ 0x39 :=
  or_congr isLower_iff_toNat Char.isDigit_iff_toNat

theorem Small.ascii (small : Small c) : c.toNat < 0x80 := by
  have bounds := small_iff.1 small
  omega

theorem Small.alnum (small : Small c) : isAlphanumeric c = true := by
  rcases small with letter | digit
  · exact isAlphanumeric_of_letter (.inr (isLower_iff_toNat.1 letter))
  · exact isAlphanumeric_of_isDigit digit

theorem Small.not_uppercase (small : Small c) : isUppercase c = false := by
  obtain ⟨digits, letters⟩ := Bool.and_eq_true_iff.1 asciiTables.notUppercase
  rcases small_iff.1 small with letter | digit
  · exact not_inRanges_of_apartFrom letters letter
  · exact not_inRanges_of_apartFrom digits digit

theorem Small.plain (small : Small c) : isAlphanumeric c = true ∧ isUppercase c = false :=
  ⟨small.alnum, small.not_uppercase⟩

/-- Small letters are lowercase, and digits are not. -/
theorem Small.isLowercase_eq (small : Small c) : isLowercase c = c.isAlpha := by
  obtain ⟨digits, -⟩ := Bool.and_eq_true_iff.1 asciiTables.notLowercase
  rcases small with letter | digit
  · have low : isLowercase c = true :=
      inRanges_of_within asciiTables.lowercase (isLower_iff_toNat.1 letter)
    rw [low, isAlpha_of_isLower letter]
  · have bounds : 0x30 ≤ c.toNat ∧ c.toNat ≤ 0x39 := Char.isDigit_iff_toNat.1 digit
    have other : isLowercase c = false := not_inRanges_of_apartFrom digits bounds
    have noLetter : c.isAlpha = false := by
      rw [← Bool.not_eq_true, isAlpha_iff, isUpper_iff_toNat, isLower_iff_toNat]
      omega
    rw [other, noLetter]

theorem isNumeric_of_isDigit (digit : c.isDigit = true) : isNumeric c = true :=
  inRanges_iff.2 ⟨(0x30, 0x39), List.mem_cons_self, Char.isDigit_iff_toNat.1 digit⟩

theorem Small.toLower (small : Small c) : Text.toLower c = [c] := by
  rw [(toLower_of_ascii small.ascii).1]
  rcases toLower_cases c with ⟨capital, -⟩ | ⟨-, still⟩
  · have bounds := small_iff.1 small
    omega
  · rw [still]

/-- Lowercase makes small letters and digits of the letters and numbers of ASCII. -/
theorem small_toLower (ascii : c.toNat < 0x80) (alnum : isAlphanumeric c = true) : Small c.toLower := by
  rcases toLower_cases c with ⟨-, small⟩ | ⟨other, still⟩
  · exact .inl (isLower_iff_toNat.2 small)
  · rw [still]
    rcases letter_of_ascii ascii alnum with capital | letter | digit
    · exact absurd capital other
    · exact .inl (isLower_iff_toNat.2 letter)
    · exact .inr (Char.isDigit_iff_toNat.2 digit)

theorem flatMap_toLower {cs : List Char} (small : ∀ c ∈ cs, Small c) : cs.flatMap Text.toLower = cs := by
  rw [List.flatMap_congr fun c mem => (small c mem).toLower]
  exact List.flatMap_singleton' cs

/-- A text of small letters and digits is its own lowercase. -/
theorem lowercase_of_small {text : String} (small : ∀ c ∈ text.toList, Small c) : lowercase text = text := by
  have rest : ∀ (cs before : List Char), (∀ c ∈ cs, Small c) → lowerFrom before cs = cs := by
    intro cs
    induction cs with
    | nil => exact fun _ _ => rfl
    | cons c cs ih =>
      intro before small
      obtain ⟨here, others⟩ := List.forall_mem_cons.1 small
      have plain : c ≠ 'Σ' := by
        rintro rfl
        exact absurd here.ascii (by decide)
      rw [lowerFrom, if_neg plain, here.toLower, ih _ others, List.singleton_append]
  rw [lowercase, rest _ _ small, String.ofList_toList]

end Small

theorem isAlphanumeric_of_isUpper {c : Char} (capital : c.isUpper = true) : isAlphanumeric c = true :=
  isAlphanumeric_of_letter (.inl (isUpper_iff_toNat.1 capital))

/-- A capital of ASCII is uppercase, and it is neither lowercase nor a number. -/
theorem isUppercase_of_isUpper {c : Char} (capital : c.isUpper = true) :
    isUppercase c = true ∧ isLowercase c = false ∧ isNumeric c = false := by
  have inside := isUpper_iff_toNat.1 capital
  obtain ⟨-, lower⟩ := Bool.and_eq_true_iff.1 asciiTables.notLowercase
  exact ⟨inRanges_of_within asciiTables.uppercase inside, not_inRanges_of_apartFrom lower inside,
    not_inRanges_of_apartFrom asciiTables.notNumeric inside⟩

/-- The capital of a small letter of ASCII, and back. -/
theorem toUpper_of_isLower {c : Char} (small : c.isLower = true) :
    toUpper c = [c.toUpper] ∧ c.toUpper.isUpper = true ∧ toLower c.toUpper = [c] := by
  have ascii : c.toNat < 0x80 := by
    have bounds := isLower_iff_toNat.1 small
    omega
  obtain ⟨capital, back⟩ := (asciiCasing ascii).capital small
  have ascii' : c.toUpper.toNat < 0x80 := by
    have bounds := isUpper_iff_toNat.1 capital
    omega
  refine ⟨?_, capital, ?_⟩
  · rw [toUpper_eq_of_ascii ascii, (asciiCasing ascii).upper small]
  · rw [(toLower_of_ascii ascii').1, back]

end CmdletForge.Naming
