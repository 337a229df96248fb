import CmdletForge.Proofs.Naming.Boundaries

/-!
# Marks in words

Only the letters and numbers of an identifier go into its words, but they are put into lowercase on the way, and
the lowercase of `İ` is spelled with a dot that is neither. Nothing else gets into words beside letters and
numbers: a *mark* in a word is such a dot, it stands behind the small `i` that it belongs to, and there are as
many of them as there are capitals with a dot. An identifier without this capital has words without marks.
-/

namespace CmdletForge.Naming

open CmdletForge.Text

/-- The characters of a text that are neither letters nor numbers. -/
def marks (text : List Char) : List Char := text.filter fun c => !isAlphanumeric c

/-- Every mark of a text is the dot above, right behind a small `i`. -/
def Dotted (text : List Char) : Prop :=
  ∀ front c back, text = front ++ c :: back → isAlphanumeric c = false →
    c = dotAbove ∧ front.getLast? = some 'i'

section Marks

variable {c : Char} {text piece : List Char}

theorem marks_append (text more : List Char) : marks (text ++ more) = marks text ++ marks more :=
  List.filter_append _ _

theorem marks_eq_nil_iff : marks text = [] ↔ ∀ c ∈ text, isAlphanumeric c = true := by
  simp [marks, List.filter_eq_nil_iff]

theorem isAlphanumeric_smallI : isAlphanumeric 'i' = true :=
  isAlphanumeric_of_letter (.inr (by decide))

theorem marks_toLower_dotted : marks (toLower 'İ') = [dotAbove] := by
  rw [toLower_dotted, marks, List.filter_cons_of_neg (by simp [isAlphanumeric_smallI]),
    List.filter_cons_of_pos (by simp [isAlphanumeric_dotted.2]), List.filter_nil]

theorem marks_toLower (alnum : isAlphanumeric c = true) (other : c ≠ 'İ') : marks (toLower c) = [] := by
  obtain ⟨d, lower, letter⟩ := exists_toLower alnum other
  rw [lower, marks_eq_nil_iff]
  simpa using letter

/-- In lowercase a text of letters and numbers has one mark for each capital with a dot. -/
theorem marks_flatMap_toLower (alnum : ∀ c ∈ text, isAlphanumeric c = true) :
    marks (text.flatMap toLower) = List.replicate (text.count 'İ') dotAbove := by
  induction text with
  | nil => rfl
  | cons c rest ih =>
    obtain ⟨here, others⟩ := List.forall_mem_cons.1 alnum
    rw [List.flatMap_cons, marks_append, ih others]
    by_cases dotted : c = 'İ'
    · rw [dotted, marks_toLower_dotted, List.count_cons_self, List.replicate_succ, List.singleton_append]
    · rw [marks_toLower here dotted, List.count_cons_of_ne dotted, List.nil_append]

theorem Dotted.letter (alnum : isAlphanumeric c = true) (dotted : Dotted text) : Dotted (c :: text) := by
  intro front d back whole mark
  cases front with
  | nil =>
    obtain ⟨rfl, -⟩ := List.cons.inj whole
    rw [alnum] at mark
    contradiction
  | cons first front =>
    obtain ⟨-, rest⟩ := List.cons.inj whole
    obtain ⟨dot, last⟩ := dotted front d back rest mark
    refine ⟨dot, ?_⟩
    rw [List.getLast?_cons, last, Option.getD_some]

theorem Dotted.dot (dotted : Dotted text) : Dotted ('i' :: dotAbove :: text) := by
  intro front d back whole mark
  match front with
  | [] =>
    obtain ⟨rfl, -⟩ := List.cons.inj whole
    rw [isAlphanumeric_smallI] at mark
    contradiction
  | [first] =>
    obtain ⟨rfl, rest⟩ := List.cons.inj whole
    obtain ⟨rfl, -⟩ := List.cons.inj rest
    exact ⟨rfl, rfl⟩
  | first :: second :: front =>
    obtain ⟨-, rest⟩ := List.cons.inj whole
    obtain ⟨-, rest⟩ := List.cons.inj rest
    obtain ⟨dot, last⟩ := dotted front d back rest mark
    refine ⟨dot, ?_⟩
    rw [List.getLast?_cons, List.getLast?_cons, last, Option.getD_some, Option.getD_some]

/-- In lowercase the marks of a text of letters and numbers stand behind small `i`s. -/
theorem dotted_flatMap_toLower (alnum : ∀ c ∈ text, isAlphanumeric c = true) :
    Dotted (text.flatMap toLower) := by
  induction text with
  | nil =>
    intro front d back whole
    simp at whole
  | cons c rest ih =>
    obtain ⟨here, others⟩ := List.forall_mem_cons.1 alnum
    rw [List.flatMap_cons]
    by_cases dotted : c = 'İ'
    · rw [dotted, toLower_dotted]
      exact (ih others).dot
    · obtain ⟨d, lower, letter⟩ := exists_toLower here dotted
      rw [lower]
      exact (ih others).letter letter

end Marks

/-! ## The characters of words -/

section Words

variable (identifier : String)

theorem dotted_of_mem_words {word : String} (mem : word ∈ words identifier) : Dotted word.toList := by
  rw [words_eq] at mem
  obtain ⟨piece, found, rfl⟩ := List.mem_map.1 mem
  rw [lowered, String.toList_ofList]
  exact dotted_flatMap_toLower fun _ => isAlphanumeric_of_mem_pieces found

/-- All words together have the marks of the letters and numbers of the identifier. -/
theorem flatMap_marks_words : (words identifier).flatMap (fun word => marks word.toList) =
    List.replicate (identifier.toList.count 'İ') dotAbove := by
  have joined := congrArg String.toList (isSplit_words identifier).joined
  rw [String.toList_join, String.toList_ofList] at joined
  calc (words identifier).flatMap (fun word => marks word.toList)
      = marks ((words identifier).flatMap String.toList) := by simp only [marks, List.filter_flatMap]
    _ = marks ((identifier.toList.filter isAlphanumeric).flatMap toLower) := by rw [joined]
    _ = List.replicate ((identifier.toList.filter isAlphanumeric).count 'İ') dotAbove :=
        marks_flatMap_toLower fun _ mem => (List.mem_filter.1 mem).2
    _ = List.replicate (identifier.toList.count 'İ') dotAbove := by
        rw [List.count_filter isAlphanumeric_dotted.1]

/-- **The characters of words.** They are letters and numbers, but for one dot for each `İ` of the identifier,
behind the small `i` that it has become. So words are of letters and numbers alone exactly if the identifier has
no such capital. -/
theorem words_dotted :
    (∀ word ∈ words identifier, Dotted word.toList) ∧
      (words identifier).flatMap (fun word => marks word.toList) =
        List.replicate (identifier.toList.count 'İ') dotAbove ∧
      ((∀ word ∈ words identifier, ∀ c ∈ word.toList, isAlphanumeric c = true) ↔
        'İ' ∉ identifier.toList) := by
  have marked := flatMap_marks_words identifier
  refine ⟨fun _ mem => dotted_of_mem_words identifier mem, marked, ?_⟩
  calc (∀ word ∈ words identifier, ∀ c ∈ word.toList, isAlphanumeric c = true)
      ↔ (words identifier).flatMap (fun word => marks word.toList) = [] := by
        simp only [List.flatMap_eq_nil_iff, marks_eq_nil_iff]
    _ ↔ identifier.toList.count 'İ' = 0 := by rw [marked, List.replicate_eq_nil_iff]
    _ ↔ 'İ' ∉ identifier.toList := List.count_eq_zero

end Words

/-- The name of a city begins with a small letter and a mark. -/
theorem izmir_marked : words "İzmir" = ["i\u0307zmir"] ∧
    ¬ ∀ identifier, ∀ word ∈ words identifier, ∀ c ∈ word.toList, isAlphanumeric c = true := by
  have text : "İzmir".toList = ['İ', 'z', 'm', 'i', 'r'] := String.toList_ofList
  have text' : "i\u0307zmir".toList = ['i', dotAbove, 'z', 'm', 'i', 'r'] := String.toList_ofList
  have cut : pieces ['İ', 'z', 'm', 'i', 'r'] = [['İ', 'z', 'm', 'i', 'r']] := by decide +kernel
  have small : ['İ', 'z', 'm', 'i', 'r'].flatMap toLower = ['i', dotAbove, 'z', 'm', 'i', 'r'] := by
    decide +kernel
  have found : words "İzmir" = ["i\u0307zmir"] := by
    rw [words_eq, text, cut, List.map_singleton, lowered, small, ← text', String.ofList_toList]
  refine ⟨found, fun kept => ?_⟩
  have letter := kept "İzmir" "i\u0307zmir" (by rw [found]; exact List.mem_singleton_self _) dotAbove
    (by rw [text']; exact List.mem_cons_of_mem _ List.mem_cons_self)
  rw [isAlphanumeric_dotted.2] at letter
  exact Bool.false_ne_true letter

end CmdletForge.Naming
