import CmdletForge.Proofs.Naming.Ascii
import CmdletForge.Proofs.Naming.Scanning

/-!
# Words between separators

A casing that puts a separator between the words keeps them: no rule for the beginning of a word looks across a
separator, so each word is read by itself, and a word of small letters and digits is one word. For an ASCII
identifier all words are of this kind. So they can be read back from its `snake_case` and its `kebab-case`.
-/

namespace CmdletForge.Naming

open CmdletForge.Text

/-! ## Words of small letters and digits -/

/-- A word of small letters and digits. -/
structure SmallWord (word : String) : Prop where
  nonempty : word ≠ ""
  small : ∀ c ∈ word.toList, Small c

section SmallWord

variable {identifier word : String}

/-- Small letters and digits stay together. -/
theorem pieces_of_small {cs : List Char} (nonempty : cs ≠ []) (small : ∀ c ∈ cs, Small c) :
    pieces cs = [cs] := by
  obtain ⟨c, own, rfl⟩ := List.exists_cons_of_ne_nil nonempty
  obtain ⟨here, others⟩ := List.forall_mem_cons.1 small
  have whole : restOfWord c own = (own, []) := by
    rw [← List.append_nil own, restOfWord_append fun d mem => (others d mem).plain]
    simp [restOfWord]
  rw [pieces_cons here.alnum, whole, pieces]

theorem SmallWord.words_eq (its : SmallWord word) : words word = [word] := by
  have nonempty : word.toList ≠ [] := fun empty => its.nonempty (String.toList_eq_nil_iff.1 empty)
  rw [Naming.words_eq, pieces_of_small nonempty its.small, List.map_singleton, lowered,
    flatMap_toLower its.small, String.ofList_toList]

/-- The words of an ASCII identifier. -/
theorem smallWord_of_mem_words (ascii : ∀ c ∈ identifier.toList, c.toNat < 0x80)
    (mem : word ∈ words identifier) : SmallWord word := by
  rw [words_eq] at mem
  obtain ⟨piece, found, rfl⟩ := List.mem_map.1 mem
  refine ⟨lowered_ne_empty (pieces_ne_nil found), fun c its => ?_⟩
  rw [lowered, String.toList_ofList] at its
  obtain ⟨d, inside, lower⟩ := List.mem_flatMap.1 its
  obtain ⟨listed, alnum⟩ := List.mem_filter.1 (mem_filter_of_mem_pieces found inside)
  rw [(toLower_of_ascii (ascii d listed)).1, List.mem_singleton] at lower
  rw [lower]
  exact small_toLower (ascii d listed) alnum

end SmallWord

/-! ## Separators -/

section Separated

variable {x : Char} {tokens : List String}

/-- **Words between separators.** The words of words joined by a separator are these words. -/
theorem words_intercalate (apart : isAlphanumeric x = false) (small : ∀ token ∈ tokens, SmallWord token) :
    words ((String.singleton x).intercalate tokens) = tokens := by
  induction tokens with
  | nil => rfl
  | cons token rest ih =>
    obtain ⟨here, others⟩ := List.forall_mem_cons.1 small
    cases rest with
    | nil => rw [String.intercalate_singleton, here.words_eq]
    | cons next rest =>
      rw [String.intercalate_cons_cons, words_append apart, here.words_eq, ih others,
        List.singleton_append]

theorem map_lowercase (small : ∀ token ∈ tokens, SmallWord token) : tokens.map lowercase = tokens := by
  rw [List.map_congr_left fun token mem => lowercase_of_small (small token mem).small]
  exact List.map_id' tokens

theorem words_snakeCase (small : ∀ token ∈ tokens, SmallWord token) : words (snakeCase tokens) = tokens := by
  rw [snakeCase, map_lowercase small]
  exact words_intercalate (x := '_') outside_underscore.apart small

theorem words_kebabCase (small : ∀ token ∈ tokens, SmallWord token) : words (kebabCase tokens) = tokens := by
  rw [kebabCase, map_lowercase small]
  exact words_intercalate (x := '-') (by decide +kernel) small

end Separated

/-! ## Casings that lose nothing -/

/-- A casing loses nothing of an identifier: its words can be read back from the name, the name in the same
casing is the name, and other words lead to another name. -/
structure Lossless (casing : List String → String) (identifier : String) : Prop where
  read : words (casing (words identifier)) = words identifier
  again : casing (words (casing (words identifier))) = casing (words identifier)
  told : ∀ other, (∀ c ∈ other.toList, c.toNat < 0x80) →
    casing (words other) = casing (words identifier) → words other = words identifier

theorem Lossless.of_read {casing : List String → String} {identifier : String}
    (read : ∀ tokens, (∀ token ∈ tokens, SmallWord token) → words (casing tokens) = tokens)
    (ascii : ∀ c ∈ identifier.toList, c.toNat < 0x80) : Lossless casing identifier := by
  have here := read (words identifier) fun _ mem => smallWord_of_mem_words ascii mem
  refine ⟨here, by rw [here], fun other ascii' same => ?_⟩
  calc words other = words (casing (words other)) :=
        (read _ fun _ mem => smallWord_of_mem_words ascii' mem).symm
    _ = words (casing (words identifier)) := by rw [same]
    _ = words identifier := here

/-- **Separated words.** `snake_case` and `kebab-case` lose nothing of an ASCII identifier. -/
theorem separated_lossless {identifier : String} (ascii : ∀ c ∈ identifier.toList, c.toNat < 0x80) :
    Lossless snakeCase identifier ∧ Lossless kebabCase identifier :=
  ⟨.of_read (fun _ => words_snakeCase) ascii, .of_read (fun _ => words_kebabCase) ascii⟩

/-- An acronym, a digit, and a separator that is none of the two. -/
theorem myURLs_lossless :
    (∀ c ∈ "p2.myURLs".toList, c.toNat < 0x80) ∧ words "p2.myURLs" = ["p2", "my", "ur", "ls"] ∧
      Lossless snakeCase "p2.myURLs" ∧ Lossless kebabCase "p2.myURLs" :=
  ⟨by decide, by decide +kernel, separated_lossless (by decide)⟩

end CmdletForge.Naming
