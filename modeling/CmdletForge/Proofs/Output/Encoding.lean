import CmdletForge.Proofs.Json.Layout
import CmdletForge.Proofs.Output.Tiling
import Mathlib.Data.List.Forall2

/-!
# Substitution in JSON text

Literals are replaced in the text of a JSON document, not in its strings. That comes to the same if what
is put in is plain: no literal starts in a mark, a word, a number or an escape, none crosses the end of a
string, and plain text is its own encoding.
-/

namespace CmdletForge.SubstitutionTable

open Json

variable {entries : List (List Char × List Char)}

/-- The literals of a table are not empty, stand for themselves in a JSON string, and start with a mark. -/
structure Legible (entries : List (List Char × List Char)) : Prop where
  full : ∀ entry ∈ entries, entry.1 ≠ []
  plain : ∀ entry ∈ entries, ∀ c ∈ entry.1, Plain c
  marked : Marked entries

/-- What is put into the text in place of literals is plain. -/
def PutsPlain (entries : List (List Char × List Char)) (text : List Char) : Prop :=
  ∀ tile ∈ pieces entries text, tile.isReplaced = true → ∀ c ∈ tile.target, Plain c

instance (entries : List (List Char × List Char)) (text : List Char) :
    Decidable (PutsPlain entries text) :=
  inferInstanceAs (Decidable (∀ tile ∈ pieces entries text, _ → ∀ c ∈ tile.target, Plain c))

/-- Nothing is put in at the first character, but perhaps after it. -/
theorem PutsPlain.tail {c : Char} {more : List Char} (puts : PutsPlain entries (c :: more))
    (found : startsWith? entries (c :: more) = none) : PutsPlain entries more :=
  fun tile mem => puts tile (pieces_of_none found ▸ List.mem_cons_of_mem _ mem)

/-- The replacement of the literal in front is plain, and so are those after it. -/
theorem PutsPlain.behind {literal replacement behind : List Char}
    (puts : PutsPlain entries (literal ++ behind)) (full : literal ≠ [])
    (found : startsWith? entries (literal ++ behind) = some (literal, replacement)) :
    (∀ c ∈ replacement, Plain c) ∧ PutsPlain entries behind := by
  have parts := pieces_of_some full found
  exact ⟨puts (.replaced literal replacement) (parts ▸ List.mem_cons_self) rfl,
    fun tile mem => puts tile (parts ▸ List.mem_cons_of_mem _ mem)⟩

/-! ## Strings -/

/-- The same literal starts a string and its encoding. -/
theorem startsWith?_escape (legible : Legible entries) (text rest : List Char) :
    startsWith? entries (escape text ++ '"' :: rest) = startsWith? entries text :=
  startsWith?_congr fun entry mem => prefix_escape_iff (legible.plain entry mem)

theorem quiet_escapeChar {c : Char} (special : ¬ Plain c) : quiet (escapeChar c) = true := by
  refine of_special (P := fun c => quiet (escapeChar c) = true) ?_ ?_ ?_ special <;> decide

/-- The encoding of a string turns into that of what the string becomes. -/
theorem rewrite_escape (legible : Legible entries) (text rest : List Char)
    (puts : PutsPlain entries text) : rewrite entries (escape text ++ '"' :: rest) =
      escape (rewrite entries text) ++ '"' :: rewrite entries rest := by
  have tiling := tiling_pieces legible.full text
  generalize pieces entries text = tiles at tiling
  induction tiling with
  | done => exact turns_of_quiet legible.marked ['"'] (by decide) rest
  | @kept c more _ none _ ih =>
    have found := startsWith?_eq_none_iff.2 none
    have same := startsWith?_escape legible (c :: more) rest
    have others := ih (puts.tail found)
    rw [found] at same
    rw [rewrite_of_none found, escape_cons, escape_cons]
    by_cases plain : Plain c
    · rw [escape_cons, escapeChar_of_plain plain] at same
      rw [escapeChar_of_plain plain]
      exact (rewrite_of_none same).trans (congrArg _ others)
    · -- The string has no literal here, and its encoding has an escape, which no literal starts in.
      rw [List.append_assoc, turns_of_quiet legible.marked _ (quiet_escapeChar plain), others,
        List.append_assoc]
  | @replaced literal replacement behind _ first _ ih =>
    have found := startsWith?_eq_some_iff.2 first
    have full := legible.full _ first.mem
    have same := startsWith?_escape legible (literal ++ behind) rest
    obtain ⟨plain, kept⟩ := puts.behind full found
    have others := ih kept
    rw [found] at same
    rw [escape_append, escape_of_plain (legible.plain _ first.mem), List.append_assoc] at same ⊢
    rw [rewrite_of_some full same, rewrite_of_some full found, others, escape_append,
      escape_of_plain plain, List.append_assoc]

variable {table : SubstitutionTable}

theorem turns_quoted (legible : Legible table.pairs) {s : String}
    (puts : PutsPlain table.pairs s.toList) :
    Turns table.pairs (quoted s) (quoted (table.apply s)) := by
  intro rest
  have inside := rewrite_escape legible s.toList rest puts
  have opening := turns_of_quiet legible.marked ['"'] (by decide)
  rw [quoted_eq, quoted_eq, toList_apply, List.cons_append, List.append_assoc]
  refine (opening _).trans ?_
  simp [inside]

/-! ## Values -/

theorem turns_newline (marked : Marked entries) (indent : Nat) :
    Turns entries (newline indent) (newline indent) := by
  refine turns_of_quiet marked _ (quiet_of_forall fun c mem => ?_)
  rcases List.mem_cons.1 mem with rfl | mem
  · decide
  · rw [List.eq_of_mem_replicate mem]
    decide

theorem turns_listed (marked : Marked entries) (indent : Nat) {before after : List (List Char)}
    (parts : List.Forall₂ (Turns entries) before after) :
    Turns entries (listed indent before) (listed indent after) := by
  have line := turns_newline marked indent
  have comma : Turns entries [','] [','] := turns_of_quiet marked _ (by decide)
  induction parts with
  | nil => exact .nil
  | cons first rest ih =>
    cases rest with
    | nil => exact line.append first
    | cons second rest => exact (line.append first).append (comma.append ih)

theorem turns_block (marked : Marked entries) (indent : Nat) {before after : List (List Char)}
    (parts : List.Forall₂ (Turns entries) before after) :
    Turns entries (block indent before) (block indent after) := by
  have lines := turns_listed marked (indent + 1) parts
  cases parts with
  | nil => exact .nil
  | cons first rest => exact lines.append (turns_newline marked indent)

/-- **Substitution commutes with encoding**, part by part. -/
theorem turns_pretty (legible : Legible table.pairs) (value : Json) (indent : Nat)
    (puts : ∀ text ∈ value.texts, PutsPlain table.pairs text.toList) :
    Turns table.pairs (prettyChars indent value) (prettyChars indent (value.mapTexts table.apply)) := by
  have word : ∀ text, quiet text = true → Turns table.pairs text text :=
    turns_of_quiet legible.marked
  have mark : ∀ c, quiet [c] = true → Turns table.pairs [c] [c] := fun c => word [c]
  induction value using Json.induction generalizing indent with
  | null => exact word "null".toList (by decide)
  | bool b =>
    cases b with
    | true => exact word "true".toList (by decide)
    | false => exact word "false".toList (by decide)
  | num n =>
    refine word _ (quiet_of_forall fun c mem => ?_)
    have all : ∀ c ∈ numerals, c ∉ ['C', 'M', 'u'] := by decide
    exact all c (numeric_numberText n c mem)
  | str s => exact turns_quoted legible (puts s (by simp [texts]))
  | arr items ih =>
    rw [mapTexts_arr, prettyChars_arr, prettyChars_arr]
    refine (mark '[' (by decide)).append ((turns_block legible.marked indent ?_).append
      (mark ']' (by decide)))
    rw [List.map_map, List.forall₂_map_left_iff, List.forall₂_map_right_iff, List.forall₂_same]
    intro item mem
    exact ih item mem _ fun text its => puts text (texts_subset_of_mem_items mem its)
  | obj fields ih =>
    rw [mapTexts_obj, prettyChars_obj, prettyChars_obj]
    refine (mark '{' (by decide)).append ((turns_block legible.marked indent ?_).append
      (mark '}' (by decide)))
    rw [List.map_map, List.forall₂_map_left_iff, List.forall₂_map_right_iff, List.forall₂_same]
    intro field mem
    have inside := texts_subset_of_mem_entries mem
    have key := turns_quoted legible (puts field.1 (inside List.mem_cons_self))
    refine key.append ((word [':', ' '] (by decide)).append (ih field mem _ fun text its => ?_))
    exact puts text (inside (List.mem_cons_of_mem _ its))

theorem apply_pretty (legible : Legible table.pairs) {value : Json}
    (puts : ∀ text ∈ value.texts, PutsPlain table.pairs text.toList) :
    table.apply value.pretty = (value.mapTexts table.apply).pretty := by
  have turns := turns_pretty legible value 0 puts []
  rw [List.append_nil, show rewrite table.pairs [] = [] from rfl, List.append_nil] at turns
  rw [pretty, apply_ofList, turns, pretty]

/-! ## The legacy runtime -/

theorem legible_legacyRuntime (space : String) : Legible (legacyRuntime space).pairs := by
  have legible : ∀ literal ∈ (legacyRuntime space).pairs.map Prod.fst, literal ≠ [] ∧
      (∀ c ∈ literal, Plain c) ∧
      (['C'] <+: literal ∨ ['M'] <+: literal ∨ ['u', 's'] <+: literal) := by
    rw [pairs, entries_legacyRuntime]
    simp only [List.map_cons, List.map_nil]
    decide +kernel
  have its := fun entry mem => legible _ (List.mem_map_of_mem (a := entry) mem)
  exact ⟨fun entry mem => (its entry mem).1, fun entry mem => (its entry mem).2.1,
    fun entry mem => (its entry mem).2.2⟩

/-- What the legacy runtime puts into a text is plain if the namespace is. -/
theorem putsPlain_legacyRuntime {space : String} (plain : ∀ c ∈ space.toList, Plain c)
    (text : List Char) : PutsPlain (legacyRuntime space).pairs text := by
  rintro (c | ⟨literal, replacement⟩) mem replaced
  · contradiction
  have full := (legible_legacyRuntime space).full
  have known := (tiling_pieces full text).mem_entries mem
  have listed : replacement = [] ∨ replacement = space.toList ∨
      replacement = space.toList ++ ".Runtime".toList ∨
      replacement = space.toList ++ ".Runtime.Json".toList := by
    rw [pairs, entries_legacyRuntime] at known
    simp only [List.map_cons, List.map_nil, List.mem_cons, List.not_mem_nil, or_false,
      Prod.mk.injEq, String.toList_append, String.toList_empty] at known
    tauto
  have runtime : ∀ c ∈ ".Runtime".toList, Plain c := by decide
  have json : ∀ c ∈ ".Runtime.Json".toList, Plain c := by decide
  rcases listed with rfl | rfl | rfl | rfl
  · exact List.forall_mem_nil _
  · exact plain
  · exact List.forall_mem_append.2 ⟨plain, runtime⟩
  · exact List.forall_mem_append.2 ⟨plain, json⟩

end CmdletForge.SubstitutionTable
