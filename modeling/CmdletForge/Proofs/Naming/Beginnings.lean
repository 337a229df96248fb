import CmdletForge.Proofs.Naming.Characters
import CmdletForge.Types.Registry

/-!
# How names begin

A name in `PascalCase` begins with the first letter or number of what it was made of, as a capital if it is a
letter. Nothing else is put before it: a name is empty only if there is nothing to begin with, and then a
fallback stands for it, and it begins with a digit exactly if its source does. Casing makes no digit of
anything, and numbers in behind a name leave its beginning alone.
-/

namespace CmdletForge.Naming
open CmdletForge.Text

/-! ## Casing one character -/

section Casing

variable {runs : List CaseRun} {spelled : List (Nat × List Nat)}

/-- A range of code points inside one of a list. -/
def within (ranges : List (Nat × Nat)) (first last : Nat) : Bool :=
  ranges.any fun r => r.1.ble first && last.ble r.2

/-- Ranges that hold all letters with a case, Roman numerals aside, and no numbers. -/
def casedRanges : List (Nat × Nat) :=
  [(0xBF, 0x65F), (0x1C5A, 0x206F), (0xA6F0, 0xA82F), (0x2794, 0x2CFC), (0x104AA, 0x10857), (0x3A, 0xB1),
   (0xABFA, 0xFF0F), (0x109A, 0x1368), (0xA62A, 0xA6E5), (0x208A, 0x214F), (0x2CFE, 0x3006),
   (0x137D, 0x16ED), (0xAA5A, 0xABEF), (0x2183, 0x2184), (0x249C, 0x24E9), (0xFF1A, 0x10106),
   (0x103D6, 0x1049F), (0x10BB0, 0x10CF9), (0x10D4A, 0x10E5F), (0x1173C, 0x118DF), (0x16D7A, 0x16E7F),
   (0x16E97, 0x16FF3), (0x1E8D0, 0x1E94F), (0xB4, 0xB8)]

theorem casedRanges_apart : (casedRanges.all fun range =>
    numericRanges.all fun r => range.2.blt r.1 || r.2.blt range.1) = true := by
  decide +kernel

theorem inRanges_of_within {ranges : List (Nat × Nat)} {first last code : Nat}
    (range : within ranges first last = true) (inside : first ≤ code ∧ code ≤ last) :
    inRanges ranges code = true := by
  simp only [within, List.any_eq_true, Bool.and_eq_true, Nat.ble_eq] at range
  obtain ⟨r, mem, low, high⟩ := range
  exact inRanges_iff.2 ⟨r, mem, by omega, by omega⟩

/-- Numbers have no case but the Roman numerals. -/
theorem not_numeric_of_cased {code : Nat} (cased : inRanges casedRanges code = true) :
    inRanges numericRanges code = false := by
  rw [← Bool.not_eq_true]
  intro numeric
  obtain ⟨range, mem, low, high⟩ := inRanges_iff.1 cased
  obtain ⟨r, mem', low', high'⟩ := inRanges_iff.1 numeric
  have apart := List.all_eq_true.1 (List.all_eq_true.1 casedRanges_apart range mem) r mem'
  simp only [Bool.or_eq_true, Nat.blt_eq] at apart
  omega

/-- A shift of a range, all of it beyond the digits of ASCII, that takes numbers to numbers and others to
others. -/
def keepsNumbers (first last target : Nat) : Bool :=
  let image := target + (last - first)
  Nat.blt 0x39 first && Nat.blt 0x39 target &&
    (within casedRanges first last && within casedRanges target image ||
      within numericRanges first last && within numericRanges target image)

theorem numeric_of_keepsNumbers {first last target code image : Nat}
    (keeps : keepsNumbers first last target = true) (inside : first ≤ code ∧ code ≤ last)
    (inside' : target ≤ image ∧ image ≤ target + (last - first)) : 0x39 < code ∧ 0x39 < image ∧
      inRanges numericRanges image = inRanges numericRanges code := by
  simp only [keepsNumbers, Bool.and_eq_true, Bool.or_eq_true, Nat.blt_eq] at keeps
  obtain ⟨⟨low, low'⟩, ranges⟩ := keeps
  refine ⟨by omega, by omega, ?_⟩
  rcases ranges with ⟨range, range'⟩ | ⟨range, range'⟩
  · rw [not_numeric_of_cased (inRanges_of_within range inside),
      not_numeric_of_cased (inRanges_of_within range' inside')]
  · rw [inRanges_of_within range inside, inRanges_of_within range' inside']

/-- A case map that keeps numbers and others apart, and has an image for every character. -/
structure Keeping (runs : List CaseRun) (spelled : List (Nat × List Nat)) : Prop where
  lettered : Lettered runs spelled
  runs : (runs.all fun run => keepsNumbers run.first run.last run.target) = true
  spelled : (spelled.all fun entry => entry.2.head?.any (keepsNumbers entry.1 entry.1)) = true

theorem keeping_lower : Keeping lowerRuns lowerSpelled :=
  ⟨lettered_lower, by decide +kernel, by decide +kernel⟩

theorem keeping_upper : Keeping upperRuns upperSpelled :=
  ⟨lettered_upper, by decide +kernel, by decide +kernel⟩

/-- What a character has in common with the image of it. -/
theorem same_of_keepsNumbers {first last target image : Nat} {c : Char}
    (keeps : keepsNumbers first last target = true) (inside : first ≤ c.toNat ∧ c.toNat ≤ last)
    (inside' : target ≤ image ∧ image ≤ target + (last - first)) (code : (Char.ofNat image).toNat = image) :
    isNumeric (Char.ofNat image) = isNumeric c ∧ (Char.ofNat image).isDigit = c.isDigit := by
  obtain ⟨low, low', numeric⟩ := numeric_of_keepsNumbers keeps inside inside'
  have beyond (d : Char) (high : 0x39 < d.toNat) : d.isDigit = false := by
    rw [← Bool.not_eq_true, Char.isDigit_iff_toNat]
    exact fun digit => absurd digit.2 (Nat.not_le_of_lt high)
  refine ⟨?_, ?_⟩
  · rw [isNumeric, isNumeric, code, numeric]
  · rw [beyond c low, beyond _ (by rwa [code])]

/-- Every character has an image, whose first character is as much of a number as it was. -/
theorem exists_head_mapCase (keeping : Keeping runs spelled) (c : Char) :
    ∃ d ds, mapCase runs spelled c = d :: ds ∧ isNumeric d = isNumeric c ∧ d.isDigit = c.isDigit := by
  unfold mapCase
  split
  next codes entry =>
    obtain ⟨before, after, whole, -⟩ := List.lookup_eq_some_iff.1 entry
    have mem : (c.toNat, codes) ∈ spelled := by simp [whole]
    have keeps := List.all_eq_true.1 keeping.spelled _ mem
    cases codes with
    | nil => simp at keeps
    | cons code rest =>
      have letters := keeping.lettered.spelled _ mem code List.mem_cons_self
      refine ⟨Char.ofNat code, rest.map Char.ofNat, rfl, ?_⟩
      exact same_of_keepsNumbers (by simpa using keeps) ⟨Nat.le_refl _, Nat.le_refl _⟩ (by simp)
        (toNat_ofNat_of_letters letters ⟨Nat.le_refl _, Nat.le_refl _⟩)
  next =>
    split
    next image found =>
      obtain ⟨run, mem, mapped⟩ := List.exists_of_findSome?_eq_some found
      have covered : run.first ≤ c.toNat ∧ c.toNat ≤ run.last := by
        unfold CaseRun.image? at mapped
        split at mapped
        next its => exact ⟨its.1, its.2.1⟩
        next => contradiction
      refine ⟨Char.ofNat image, [], rfl, ?_⟩
      exact same_of_keepsNumbers (List.all_eq_true.1 keeping.runs run mem) covered (image_bounds mapped)
        (toNat_ofNat_of_letters (keeping.lettered.runs run mem) (image_bounds mapped))
    next => exact ⟨c, [], rfl, rfl, rfl⟩

/-- A character as a name begins with it. -/
def capital (c : Char) : Char := ((toUpper ((toLower c).headD c)).headD c)

/-- The capital of a character is the first character of the first character in both letter cases. -/
theorem capital_spec (c : Char) : ∃ d ds us, toLower c = d :: ds ∧ toUpper d = capital c :: us ∧
    isNumeric (capital c) = isNumeric c ∧ (capital c).isDigit = c.isDigit := by
  obtain ⟨d, ds, lower, numeric, digit⟩ := exists_head_mapCase keeping_lower c
  obtain ⟨u, us, upper, numeric', digit'⟩ := exists_head_mapCase keeping_upper d
  have lower : toLower c = d :: ds := lower
  have upper : toUpper d = u :: us := upper
  have same : capital c = u := by rw [capital, lower, List.headD_cons, upper, List.headD_cons]
  rw [same]
  exact ⟨d, ds, us, lower, upper, numeric'.trans numeric, digit'.trans digit⟩

end Casing

/-! ## Names in Pascal case -/

section Words

/-- The first letter or number of an identifier. -/
def firstOf (identifier : String) : Option Char := identifier.toList.find? isAlphanumeric

theorem pieces_ne_nil {cs piece : List Char} (mem : piece ∈ pieces cs) : piece ≠ [] := by
  fun_induction pieces cs with
  | case1 => contradiction
  | case2 c => simp_all
  | case3 c alnum d ds joined ih =>
    cases rest : pieces (d :: ds) with
    | nil =>
      rw [rest, attach, List.mem_singleton] at mem
      simp [mem]
    | cons first others =>
      rw [rest, attach] at mem
      rcases List.mem_cons.1 mem with rfl | mem
      · exact List.cons_ne_nil _ _
      · exact ih (by rw [rest]; exact List.mem_cons_of_mem _ mem)
  | case4 c alnum d ds cut ih =>
    rcases List.mem_cons.1 mem with rfl | mem
    · exact List.cons_ne_nil _ _
    · exact ih mem
  | case5 c cs other ih => exact ih mem

/-- A name of words begins with the first character of the pieces that they are the words of. -/
theorem head?_pascalCase {parts : List (List Char)} (nonempty : ∀ part ∈ parts, part ≠ []) :
    (pascalCase (parts.map fun part => String.ofList (part.flatMap toLower))).toList.head? =
      parts.flatten.head?.map capital := by
  match parts with
  | [] => rfl
  | [] :: _ => exact absurd rfl (nonempty [] List.mem_cons_self)
  | (c :: cs) :: rest =>
    obtain ⟨d, ds, us, lower, upper, -⟩ := capital_spec c
    simp [pascalCase, capitalize, String.toList_join, lower, upper]

/-- The name made of several identifiers begins with the first letter or number of the first that has one. -/
theorem head?_pascalCase_words (identifiers : List String) :
    (pascalCase (identifiers.flatMap words)).toList.head? = (identifiers.findSome? firstOf).map capital := by
  have parts : identifiers.flatMap words = (identifiers.flatMap fun identifier =>
      pieces identifier.toList).map fun part => String.ofList (part.flatMap toLower) := by
    rw [List.map_flatMap]
    rfl
  rw [parts, head?_pascalCase]
  · congr 1
    rw [← List.flatMap_id, List.flatMap_assoc]
    simp only [List.flatMap_id, flatten_pieces]
    rw [List.head?_flatMap]
    simp only [List.head?_filter]
    rfl
  · intro part mem
    obtain ⟨identifier, -, its⟩ := List.mem_flatMap.1 mem
    exact pieces_ne_nil its

theorem head?_toPascalCase (identifier : String) :
    (toPascalCase identifier).toList.head? = (firstOf identifier).map capital := by
  simpa [toPascalCase] using head?_pascalCase_words [identifier]

end Words

/-! ## Beginnings -/

/-- How a name begins that was made of something with a given first letter or number. Where there is none, a
word stands for it. -/
structure Begins (beginning : Option Char) (name : String) : Prop where
  nonempty : name ≠ ""
  first : ∀ c ∈ beginning, name.toList.head? = some (capital c)
  digit : name.toList.head?.any Char.isDigit = beginning.any Char.isDigit
  numeric : name.toList.head?.any isNumeric = beginning.any isNumeric

namespace Begins

variable {beginning : Option Char} {name : String} {c : Char}

theorem of_head (head : name.toList.head? = some (capital c)) : Begins (some c) name := by
  obtain ⟨-, -, -, -, -, numeric, digit⟩ := capital_spec c
  refine ⟨?_, fun _ its => ?_, ?_, ?_⟩
  · rintro rfl
    simp at head
  · cases its
    exact head
  · rw [head, Option.any_some, Option.any_some, digit]
  · rw [head, Option.any_some, Option.any_some, numeric]

/-- A word that is written out. -/
theorem of_word (first : name.toList.head? = some c) (digit : c.isDigit = false)
    (numeric : isNumeric c = false) : Begins none name := by
  refine ⟨?_, fun _ its => by contradiction, ?_, ?_⟩
  · rintro rfl
    simp at first
  · rw [first, Option.any_some, digit, Option.any_none]
  · rw [first, Option.any_some, numeric, Option.any_none]

/-- What comes behind a name does not change how it begins. -/
theorem append (begins : Begins beginning name) (more : String) : Begins beginning (name ++ more) := by
  have head : (name ++ more).toList.head? = name.toList.head? := by
    rw [String.toList_append, List.head?_append_of_ne_nil]
    exact fun empty => begins.nonempty (by rwa [String.toList_eq_nil_iff] at empty)
  refine ⟨?_, ?_, ?_, ?_⟩
  · simp [begins.nonempty]
  · rw [head]
    exact begins.first
  · rw [head, begins.digit]
  · rw [head, begins.numeric]

theorem uniqueName (begins : Begins beginning name) (taken : List String) :
    Begins beginning (Naming.uniqueName taken name) := by
  have spec := uniqueName_spec taken name
  generalize Naming.uniqueName taken name = unique at spec ⊢
  cases spec with
  | same => exact begins
  | numbered n => exact begins.append _

/-- The names of a row begin as their candidates do. -/
theorem of_uniqueNames {α : Type} {items : List α} {candidate name : α → String} {source : α → Option Char}
    {taken : List String} (names : items.map name = uniqueNames taken (items.map candidate))
    (begins : ∀ item ∈ items, Begins (source item) (candidate item)) :
    ∀ item ∈ items, Begins (source item) (name item) := by
  induction items generalizing taken with
  | nil => simp
  | cons item rest ih =>
    rw [List.map_cons, List.map_cons, uniqueNames] at names
    injection names with first others
    rw [List.forall_mem_cons] at begins ⊢
    refine ⟨?_, ih others begins.2⟩
    rw [first]
    exact begins.1.uniqueName taken

end Begins

/-- There is nothing in a name if it has nothing to begin with. -/
theorem isEmpty_of_head {beginning : Option Char} {name : String}
    (head : name.toList.head? = beginning.map capital) : name.isEmpty = beginning.isNone := by
  rw [Bool.eq_iff_iff, String.isEmpty_iff, ← String.toList_eq_nil_iff, ← List.head?_eq_none_iff, head,
    Option.map_eq_none_iff, Option.isNone_iff_eq_none]

/-- A name that falls back where there are no words. -/
theorem begins_pascalOr {fallback : String} (word : Begins none fallback) (identifier : String) :
    Begins (firstOf identifier) (pascalOr fallback identifier) := by
  have head := head?_toPascalCase identifier
  unfold pascalOr
  dsimp only
  rw [isEmpty_of_head head]
  cases found : firstOf identifier with
  | none => exact word
  | some c =>
    have begins : Begins (some c) (toPascalCase identifier) := .of_head (by rw [head, found, Option.map_some])
    exact begins

end CmdletForge.Naming

namespace CmdletForge

open Naming

/-- The first letter or number of what the type of a schema is named after: its declared name or, where that
has none, the first part of its path that has one. -/
def Schema.beginning? (schema : Schema) : Option Char :=
  (schema.name.bind firstOf).or
    (((segments schema.path).filter fun segment => segment ∉ structuralSegments).findSome? firstOf)

theorem Schema.begins_typeName (schema : Schema) : Begins schema.beginning? schema.typeName := by
  have declared : ((schema.name.map toPascalCase).getD "").toList.head? =
      (schema.name.bind firstOf).map capital := by
    cases schema.name with
    | none => rfl
    | some name => exact head?_toPascalCase name
  unfold Schema.typeName Schema.beginning? pathWords
  dsimp only
  generalize (segments schema.path).filter (fun segment => segment ∉ structuralSegments) = parts
  have synthesized := head?_pascalCase_words parts
  rw [isEmpty_of_head declared, isEmpty_of_head synthesized]
  cases own : schema.name.bind firstOf with
  | some c =>
    have begins : Begins (some c) ((schema.name.map toPascalCase).getD "") :=
      .of_head (by rw [declared, own, Option.map_some])
    exact begins
  | none =>
    rw [Option.none_or]
    cases other : parts.findSome? firstOf with
    | none =>
      have anonymous : Begins none "AnonymousType" := .of_word rfl (by decide) (by decide +kernel)
      exact anonymous
    | some c =>
      have begins : Begins (some c) (pascalCase (parts.flatMap words)) :=
        .of_head (by rw [synthesized, other, Option.map_some])
      exact begins

end CmdletForge
