import CmdletForge.Proofs.Naming.Recasing
import Mathlib.Data.List.Chain

/-!
# Words between capitals

`PascalCase` and `camelCase` have no separators: only its capital tells a word from the one before it. A capital
starts a word behind a small letter or a digit. Behind another capital, as it stands there if the word before it
is a single letter, it does so only if a small letter comes next. So a boundary is seen or not seen by the two
words at it, and the words can be read back exactly if all boundaries are seen. The first word of `camelCase` has
no capital, so the boundary behind it is always seen.
-/

namespace CmdletForge.Naming

open CmdletForge.Text

/-! ## Boundaries that can be seen -/

/-- A word of small letters and digits that begins with a letter. -/
structure Simple (token : String) : Prop where
  first : token.toList.head?.any Char.isLower = true
  small : ∀ c ∈ token.toList, Small c

instance (token : String) : Decidable (Simple token) :=
  decidable_of_iff (token.toList.head?.any Char.isLower = true ∧ token.toList.all (Small ·) = true)
    ⟨fun its => ⟨its.1, by simpa using its.2⟩, fun its => ⟨its.first, by simpa using its.small⟩⟩

/-- The boundary between two words can be seen when both are capitalized: the word before it does not end with
its capital, or a letter follows the capital behind it. -/
def Visible (left right : String) : Prop :=
  2 ≤ left.length ∨ right.toList[1]?.any Char.isAlpha = true

instance (left right : String) : Decidable (Visible left right) := inferInstanceAs (Decidable (_ ∨ _))

section Simple

variable {token : String} {tokens : List String}

theorem Simple.exists_cons (simple : Simple token) :
    ∃ c own, token.toList = c :: own ∧ c.isLower = true ∧ ∀ d ∈ own, Small d := by
  obtain ⟨first, small⟩ := simple
  cases chars : token.toList with
  | nil => simp [chars] at first
  | cons c own =>
    rw [chars] at first small
    exact ⟨c, own, rfl, first, fun d mem => small d (List.mem_cons_of_mem c mem)⟩

/-- A simple word with its capital. -/
theorem capitalize_of_chars {c : Char} {own : List Char} (chars : token.toList = c :: own)
    (letter : c.isLower = true) (small : ∀ d ∈ own, Small d) :
    capitalize token = String.ofList (c.toUpper :: own) := by
  rw [capitalize, chars]
  simp only [(toUpper_of_isLower letter).1, flatMap_toLower small, List.singleton_append]

theorem pascalCase_cons (token : String) (tokens : List String) :
    pascalCase (token :: tokens) = capitalize token ++ pascalCase tokens := by
  rw [pascalCase, List.map_cons, String.join_cons]
  rfl

/-- A text in `PascalCase` is empty or begins with a capital. -/
theorem isUpper_of_mem_head_pascalCase (simple : ∀ token ∈ tokens, Simple token) :
    ∀ c ∈ (pascalCase tokens).toList.head?, c.isUpper = true := by
  cases tokens with
  | nil => simp [pascalCase]
  | cons token tokens =>
    obtain ⟨d, own, chars, letter, small⟩ := (simple token List.mem_cons_self).exists_cons
    intro c mem
    rw [pascalCase_cons, capitalize_of_chars chars letter small] at mem
    obtain rfl : d.toUpper = c := by simpa using mem
    exact (toUpper_of_isLower letter).2.1

end Simple

/-! ## One boundary -/

section Boundary

variable {first last c : Char} {cs own : List Char} {token next : String} {tokens : List String}

/-- A capital behind a small letter or a digit starts a word. -/
theorem startsWord_of_small (small : Small last) (capital : c.isUpper = true) (behind : Option Char) :
    startsWord last c behind = true := by
  have low : (isLowercase last || isNumeric last) = true := by
    rcases small with letter | digit
    · rw [Small.isLowercase_eq (.inl letter), isAlpha_of_isLower letter, Bool.true_or]
    · rw [isNumeric_of_isDigit digit, Bool.or_true]
  rw [startsWord, (isUppercase_of_isUpper capital).1, low]
  rfl

/-- A capital behind a capital starts a word if a small letter comes next. -/
theorem startsWord_of_capital (run : last.isUpper = true) (capital : c.isUpper = true)
    (behind : Option Char) : startsWord last c behind = behind.any isLowercase := by
  obtain ⟨upper, notLow, notNumber⟩ := isUppercase_of_isUpper run
  rw [startsWord, (isUppercase_of_isUpper capital).1, upper, notLow, notNumber]
  rfl

/-- A small letter behind the capital of a word is the second letter of the word: what stands behind the word
is a capital. -/
theorem any_isLowercase_behind (small : ∀ d ∈ own, Small d) (simple : ∀ token ∈ tokens, Simple token) :
    (own ++ (pascalCase tokens).toList).head?.any isLowercase = own.head?.any Char.isAlpha := by
  cases own with
  | nil =>
    rw [List.nil_append]
    cases behind : (pascalCase tokens).toList.head? with
    | none => rfl
    | some c =>
      have capital := isUpper_of_mem_head_pascalCase simple c behind
      simp [(isUppercase_of_isUpper capital).2.1]
  | cons d own => exact (small d List.mem_cons_self).isLowercase_eq

theorem restOfWord_eq_nil_iff (alnum : isAlphanumeric c = true) :
    (restOfWord last (c :: cs)).1 = [] ↔ startsWord last c cs.head? = true := by
  cases starts : startsWord last c cs.head? with
  | true => simp [restOfWord_of_cut, starts]
  | false => simp [restOfWord_of_joined, alnum, starts]

/-- **One boundary.** Nothing behind a capitalized word is read as a part of it exactly if the boundary can be
seen. -/
theorem cut_iff_visible (chars : token.toList = c :: own) (letter : c.isLower = true)
    (small : ∀ d ∈ own, Small d) (simple : Simple next) (others : ∀ token ∈ tokens, Simple token) :
    (restOfWord (own.getLastD c.toUpper) (pascalCase (next :: tokens)).toList).1 = [] ↔
      Visible token next := by
  obtain ⟨d, own', chars', letter', small'⟩ := simple.exists_cons
  obtain ⟨-, capital', -⟩ := toUpper_of_isLower letter'
  have text : (pascalCase (next :: tokens)).toList = d.toUpper :: (own' ++ (pascalCase tokens).toList) := by
    rw [pascalCase_cons, capitalize_of_chars chars' letter' small', String.toList_append,
      String.toList_ofList, List.cons_append]
  rw [text, restOfWord_eq_nil_iff (isAlphanumeric_of_isUpper capital'), Visible, ← String.length_toList, chars, chars']
  cases own with
  | nil =>
    -- The word is its capital.
    rw [List.getLastD_nil, startsWord_of_capital (toUpper_of_isLower letter).2.1 capital',
      any_isLowercase_behind small' others]
    simp [List.head?_eq_getElem?]
  | cons e own =>
    have last : Small ((e :: own).getLastD c.toUpper) := by
      rw [List.getLastD_cons]
      exact small _ List.getLastD_mem_cons
    rw [startsWord_of_small last capital']
    simp

/-- A text that begins with a word has this word and the words behind it exactly if nothing behind it is read as
a part of it. -/
theorem words_append_iff (alnum : isAlphanumeric first = true) (small : ∀ d ∈ own, Small d)
    (whole : lowered (first :: own) = token) (rest : String) :
    words (String.ofList (first :: own) ++ rest) = token :: tokens ↔
      (restOfWord (own.getLastD first) rest.toList).1 = [] ∧ words rest = tokens := by
  have parts := restOfWord_flatten (own.getLastD first) rest.toList
  rw [words_eq, String.toList_append, String.toList_ofList, List.cons_append, pieces_cons alnum,
    restOfWord_append fun d mem => (small d mem).plain, List.map_cons, ← List.cons_append, lowered_append,
    whole, List.cons_eq_cons, words_eq rest]
  constructor
  · rintro ⟨same, behind⟩
    have nothing : (restOfWord (own.getLastD first) rest.toList).1 = [] := by
      by_contra nonempty
      apply lowered_ne_empty nonempty
      exact String.append_eq_left_iff.1 same
    rw [nothing, List.nil_append] at parts
    rw [parts] at behind
    exact ⟨nothing, behind⟩
  · rintro ⟨nothing, behind⟩
    rw [nothing, List.nil_append] at parts
    rw [nothing, parts]
    exact ⟨by simp [lowered], behind⟩

end Boundary

/-! ## All boundaries -/

section Cased

variable {tokens : List String}

theorem words_pascalCase_iff (simple : ∀ token ∈ tokens, Simple token) :
    words (pascalCase tokens) = tokens ↔ tokens.IsChain Visible := by
  induction tokens with
  | nil => simp [pascalCase, words, pieces]
  | cons token rest ih =>
    obtain ⟨here, others⟩ := List.forall_mem_cons.1 simple
    obtain ⟨c, own, chars, letter, small⟩ := here.exists_cons
    obtain ⟨-, capital, back⟩ := toUpper_of_isLower letter
    have alnum := isAlphanumeric_of_isUpper capital
    have whole : lowered (c.toUpper :: own) = token := by
      rw [lowered, List.flatMap_cons, back, flatMap_toLower small, List.singleton_append, ← chars,
        String.ofList_toList]
    have first : (restOfWord (own.getLastD c.toUpper) (pascalCase rest).toList).1 = [] ↔
        ∀ next ∈ rest.head?, Visible token next := by
      cases rest with
      | nil => simp [pascalCase, restOfWord]
      | cons next rest =>
        obtain ⟨simple, others⟩ := List.forall_mem_cons.1 others
        rw [cut_iff_visible chars letter small simple others]
        simp
    rw [pascalCase_cons, capitalize_of_chars chars letter small, words_append_iff alnum small whole, first,
      ih others, List.isChain_cons]

theorem words_camelCase_iff (simple : ∀ token ∈ tokens, Simple token) :
    words (camelCase tokens) = tokens ↔ tokens.tail.IsChain Visible := by
  cases tokens with
  | nil => simp [camelCase, words, pieces]
  | cons token rest =>
    obtain ⟨here, others⟩ := List.forall_mem_cons.1 simple
    obtain ⟨c, own, chars, letter, small⟩ := here.exists_cons
    have plain : camelCase (token :: rest) = String.ofList (c :: own) ++ pascalCase rest := by
      rw [camelCase, lowercase_of_small here.small, ← chars, String.ofList_toList]
    have whole : lowered (c :: own) = token := by
      rw [lowered, ← chars, flatMap_toLower here.small, String.ofList_toList]
    -- The capital of the second word stands behind a small letter or a digit.
    have seen : (restOfWord (own.getLastD c) (pascalCase rest).toList).1 = [] := by
      cases behind : (pascalCase rest).toList with
      | nil => rfl
      | cons d cs =>
        have capital := isUpper_of_mem_head_pascalCase others d (by rw [behind]; rfl)
        have last : Small (own.getLastD c) := here.small _ (by rw [chars]; exact List.getLastD_mem_cons)
        rw [restOfWord_eq_nil_iff (isAlphanumeric_of_isUpper capital)]
        exact startsWord_of_small last capital cs.head?
    have alnum : isAlphanumeric c = true := Small.alnum (.inl letter)
    rw [plain, words_append_iff alnum small whole, List.tail_cons, words_pascalCase_iff others]
    exact and_iff_right seen

/-- **Words between capitals.** The words of simple words in `PascalCase` are these words exactly if all
boundaries between them can be seen. In `camelCase` this goes for all boundaries but the first. -/
theorem capitalized_read_iff (simple : ∀ token ∈ tokens, Simple token) :
    (words (pascalCase tokens) = tokens ↔ tokens.IsChain Visible) ∧
      (words (camelCase tokens) = tokens ↔ tokens.tail.IsChain Visible) :=
  ⟨words_pascalCase_iff simple, words_camelCase_iff simple⟩

/-- A single letter before a word that has a digit in the second place. -/
theorem axis_read :
    (∀ token ∈ ["x", "y2", "ab"], Simple token) ∧
      (¬ ["x", "y2", "ab"].IsChain Visible ∧ ["x", "y2", "ab"].tail.IsChain Visible) ∧
      words (pascalCase ["x", "y2", "ab"]) ≠ ["x", "y2", "ab"] ∧
      words (camelCase ["x", "y2", "ab"]) = ["x", "y2", "ab"] := by
  have simple : ∀ token ∈ ["x", "y2", "ab"], Simple token := by decide
  have hidden : ¬ ["x", "y2", "ab"].IsChain Visible := by decide
  have seen : ["x", "y2", "ab"].tail.IsChain Visible := by decide
  obtain ⟨pascal, camel⟩ := capitalized_read_iff simple
  exact ⟨simple, ⟨hidden, seen⟩, fun same => hidden (pascal.1 same), camel.2 seen⟩

end Cased

end CmdletForge.Naming
