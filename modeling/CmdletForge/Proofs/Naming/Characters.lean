import CmdletForge.Naming.Casing
import CmdletForge.Proofs.Naming.Unique

/-!
# The characters of names

Words are made of alphanumeric characters, and neither casing them nor adding a number brings in a
character that separates words. So a separator such as the dot never stands in a name, and a name
can be told from the text that was put before it and a dot. The same goes for every ASCII character
that is no letter and no digit: no table of letter cases leads to it.
-/

namespace CmdletForge.Naming
open CmdletForge.Text

/-- A character below the letters that is no part of a word. -/
structure Separator (x : Char) : Prop where
  pos : 0 < x.toNat
  below : x.toNat < 0x41
  apart : isAlphanumeric x = false

theorem separator_dot : Separator '.' := by
  constructor <;> decide +kernel

/-- A character that is no part of a word, and that is no other character in another letter case. -/
structure Outside (x : Char) : Prop where
  apart : isAlphanumeric x = false
  lower : ∀ c, x ∈ toLower c → x = c
  upper : ∀ c, x ∈ toUpper c → x = c

/-! ## Casing -/

section Casing

variable {runs : List CaseRun} {spelled : List (Nat × List Nat)} {x c : Char}

/-- A run leads to no code point but those that lie as far from its target as its own from the first. -/
theorem image_bounds {run : CaseRun} {code image : Nat} (mapped : run.image? code = some image) :
    run.target ≤ image ∧ image ≤ run.target + (run.last - run.first) := by
  unfold CaseRun.image? at mapped
  split at mapped
  · injection mapped with same
    omega
  · contradiction

/-- A range of capital letters of ASCII, of small ones, or of characters beyond ASCII. -/
def LetterRange (first last : Nat) : Prop :=
  0x41 ≤ first ∧ last ≤ 0x5A ∨ 0x61 ≤ first ∧ last ≤ 0x7A ∨ 0x80 ≤ first ∧ last < 0xD800 ∨
    0xE000 ≤ first ∧ last < 0x110000

instance (first last : Nat) : Decidable (LetterRange first last) := inferInstanceAs (Decidable (_ ∨ _))

/-- The tables of a case map lead to letters. -/
structure Lettered (runs : List CaseRun) (spelled : List (Nat × List Nat)) : Prop where
  runs : ∀ run ∈ runs, LetterRange run.target (run.target + (run.last - run.first))
  spelled : ∀ entry ∈ spelled, ∀ code ∈ entry.2, LetterRange code code

theorem lettered_lower : Lettered lowerRuns lowerSpelled := by
  constructor <;> decide +kernel

theorem lettered_upper : Lettered upperRuns upperSpelled := by
  constructor <;> decide +kernel

theorem isAlphanumeric_of_letter
    (letter : 0x41 ≤ c.toNat ∧ c.toNat ≤ 0x5A ∨ 0x61 ≤ c.toNat ∧ c.toNat ≤ 0x7A) :
    isAlphanumeric c = true := by
  have alphabetic : isAlphabetic c = true := by
    rcases letter with capital | small
    · exact inRanges_iff.2 ⟨(0x41, 0x5A), List.mem_cons_self, capital⟩
    · exact inRanges_iff.2 ⟨(0x61, 0x7A), List.mem_cons_of_mem _ List.mem_cons_self, small⟩
  simp [isAlphanumeric, alphabetic]

theorem toNat_ofNat_of_letters {first last code : Nat} (letters : LetterRange first last)
    (inside : first ≤ code ∧ code ≤ last) : (Char.ofNat code).toNat = code := by
  have known : code.isValidChar := by
    by_cases low : code < 0xD800
    · exact .inl low
    · rcases letters with _ | _ | _ | _ <;> exact .inr (by omega)
  rw [Char.ofNat, dif_pos known]
  rfl

/-- An ASCII character that is no part of a word is not in a range of letters. -/
theorem ofNat_ne {first last code : Nat} (ascii : x.toNat < 0x80) (apart : isAlphanumeric x = false)
    (letters : LetterRange first last) (inside : first ≤ code ∧ code ≤ last) : Char.ofNat code ≠ x := by
  rintro rfl
  have same := toNat_ofNat_of_letters letters inside
  -- A letter of ASCII would be part of a word.
  have letter : 0x41 ≤ code ∧ code ≤ 0x5A ∨ 0x61 ≤ code ∧ code ≤ 0x7A := by
    rw [same] at ascii
    unfold LetterRange at letters
    omega
  rw [← same] at letter
  rw [isAlphanumeric_of_letter letter] at apart
  contradiction

/-- A case map that leads to letters yields an ASCII character that is none for itself only. -/
theorem eq_of_mem_mapCase (lettered : Lettered runs spelled) (ascii : x.toNat < 0x80)
    (apart : isAlphanumeric x = false) (mem : x ∈ mapCase runs spelled c) : x = c := by
  unfold mapCase at mem
  split at mem
  next codes entry =>
    obtain ⟨code, inside, same⟩ := List.mem_map.1 mem
    obtain ⟨before, after, whole, -⟩ := List.lookup_eq_some_iff.1 entry
    have letters := lettered.spelled (c.toNat, codes) (by simp [whole]) code inside
    exact absurd same (ofNat_ne ascii apart letters ⟨Nat.le_refl code, Nat.le_refl code⟩)
  next =>
    split at mem
    next image found =>
      obtain ⟨run, listed, mapped⟩ := List.exists_of_findSome?_eq_some found
      have same := (List.mem_singleton.1 mem).symm
      exact absurd same (ofNat_ne ascii apart (lettered.runs run listed) (image_bounds mapped))
    next => exact List.mem_singleton.1 mem

/-- An ASCII character that is no part of a word is outside of all words. -/
theorem outside_of_ascii (ascii : x.toNat < 0x80) (apart : isAlphanumeric x = false) : Outside x :=
  ⟨apart, fun _ => eq_of_mem_mapCase lettered_lower ascii apart,
    fun _ => eq_of_mem_mapCase lettered_upper ascii apart⟩

theorem Separator.outside (sep : Separator x) : Outside x :=
  outside_of_ascii (Nat.lt_trans sep.below (by decide)) sep.apart

theorem outside_underscore : Outside '_' :=
  outside_of_ascii (by decide) (by decide +kernel)

end Casing

/-! ## Words -/

section Words

variable {x c : Char}

/-- The pieces of a text are all that is alphanumeric in it. -/
theorem flatten_pieces (cs : List Char) : (pieces cs).flatten = cs.filter isAlphanumeric := by
  fun_induction pieces cs with
  | case1 => rfl
  | case2 c alnum => simp [alnum]
  | case3 c alnum d ds joined ih =>
    rw [List.filter_cons_of_pos alnum, ← ih]
    cases pieces (d :: ds) <;> rfl
  | case4 c alnum d ds cut ih =>
    rw [List.filter_cons_of_pos alnum, ← ih]
    rfl
  | case5 c cs other ih => rw [List.filter_cons_of_neg other, ih]

theorem mem_filter_of_mem_pieces {cs piece : List Char} (mem : piece ∈ pieces cs) (its : c ∈ piece) :
    c ∈ cs.filter isAlphanumeric := by
  rw [← flatten_pieces]
  exact List.mem_flatten.2 ⟨piece, mem, its⟩

theorem isAlphanumeric_of_mem_pieces {cs piece : List Char} (mem : piece ∈ pieces cs) (its : c ∈ piece) :
    isAlphanumeric c = true :=
  (List.mem_filter.1 (mem_filter_of_mem_pieces mem its)).2

/-- No character from outside is kept in a word. -/
theorem not_mem_of_mem_words (out : Outside x) {identifier word : String}
    (mem : word ∈ words identifier) : x ∉ word.toList := by
  obtain ⟨piece, found, rfl⟩ := List.mem_map.1 mem
  intro kept
  rw [String.toList_ofList] at kept
  obtain ⟨c, inside, lowered⟩ := List.mem_flatMap.1 kept
  have same := out.lower c lowered
  have alnum := isAlphanumeric_of_mem_pieces found inside
  rw [← same, out.apart] at alnum
  contradiction

/-- A character from outside in a capitalized word was in the word. -/
theorem mem_of_mem_capitalize (out : Outside x) {word : String}
    (mem : x ∈ (capitalize word).toList) : x ∈ word.toList := by
  unfold capitalize at mem
  split at mem
  next => simp at mem
  next c cs spelled =>
    rw [String.toList_ofList] at mem
    rw [spelled]
    rcases List.mem_append.1 mem with mem | mem
    · exact List.mem_cons.2 (.inl (out.upper c mem))
    · obtain ⟨d, inside, lowered⟩ := List.mem_flatMap.1 mem
      obtain rfl := out.lower d lowered
      exact List.mem_cons.2 (.inr inside)

theorem not_mem_pascalCase (out : Outside x) {tokens : List String}
    (free : ∀ token ∈ tokens, x ∉ token.toList) : x ∉ (pascalCase tokens).toList := by
  intro mem
  rw [pascalCase, String.toList_join] at mem
  obtain ⟨text, found, inside⟩ := List.mem_flatMap.1 mem
  obtain ⟨token, mem, rfl⟩ := List.mem_map.1 found
  exact free token mem (mem_of_mem_capitalize out inside)

theorem not_mem_toPascalCase (out : Outside x) (identifier : String) :
    x ∉ (toPascalCase identifier).toList :=
  not_mem_pascalCase out fun _ mem => not_mem_of_mem_words out mem

theorem not_mem_pascalOr (out : Outside x) {fallback : String} (free : x ∉ fallback.toList)
    (identifier : String) : x ∉ (pascalOr fallback identifier).toList := by
  unfold pascalOr
  dsimp only
  split
  · exact free
  · exact not_mem_toPascalCase out identifier

end Words

/-! ## Numbers -/

theorem isAlphanumeric_of_isDigit {c : Char} (digit : c.isDigit = true) : isAlphanumeric c = true := by
  have number : isNumeric c = true :=
    inRanges_iff.2 ⟨(0x30, 0x39), List.mem_cons_self, Char.isDigit_iff_toNat.1 digit⟩
  simp [isAlphanumeric, number]

theorem not_mem_numbered {x : Char} (out : Outside x) {candidate : String}
    (free : x ∉ candidate.toList) (n : Nat) : x ∉ (numbered candidate n).toList := by
  intro mem
  have split : x ∈ candidate.toList ∨ x ∈ n.repr.toList := by
    simpa [numbered] using mem
  rcases split with mem | mem
  · exact free mem
  · rw [Nat.toList_repr] at mem
    have alnum := isAlphanumeric_of_isDigit (Nat.isDigit_of_mem_toDigits (by decide) (by decide) mem)
    rw [out.apart] at alnum
    contradiction

theorem not_mem_uniqueName {x : Char} (out : Outside x) {taken : List String} {candidate : String}
    (free : x ∉ candidate.toList) : x ∉ (uniqueName taken candidate).toList := by
  have spec := uniqueName_spec taken candidate
  generalize uniqueName taken candidate = name at spec ⊢
  cases spec with
  | same => exact free
  | numbered n => exact not_mem_numbered out free (n + 1)

/-! ## Joined names -/

/-- Where the last of two parts is free of a separator, the joined text determines both. -/
theorem append_separator_inj {x : Char} {left right left' right' : List Char} (free : x ∉ right)
    (free' : x ∉ right') (same : left ++ x :: right = left' ++ x :: right') :
    left = left' ∧ right = right' := by
  rcases List.append_eq_append_iff.1 same with ⟨gap, rfl, rest⟩ | ⟨gap, rfl, rest⟩
  · cases gap with
    | nil => simpa using rest
    | cons c gap =>
      injection rest with first tail
      exact absurd (by simp [tail]) free
  · cases gap with
    | nil => simpa [eq_comm] using rest
    | cons c gap =>
      injection rest with first tail
      exact absurd (by simp [tail]) free'

end CmdletForge.Naming
