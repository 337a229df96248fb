import CmdletForge.Output.Substitution

/-!
# Where literals are replaced

The pieces of a text, one after the other: a literal of the table where one starts, else a character.
A part of a text `Turns` into another if it does so whatever follows: no literal that starts in it ends
behind it. Parts that turn one by one turn as a whole.
-/

namespace CmdletForge.SubstitutionTable

variable {entries : List (List Char × List Char)} {c : Char} {text rest literal replacement : List Char}

/-- The pieces of a text. -/
def pieces (entries : List (List Char × List Char)) (text : List Char) : List Tile :=
  tilesFrom entries [] 0 text

/-- What a text becomes. -/
def rewrite (entries : List (List Char × List Char)) (text : List Char) : List Char :=
  (pieces entries text).flatMap Tile.target

/-- The pieces that were found stand in front, and those of what is not covered follow. -/
theorem tilesFrom_eq (entries : List (List Char × List Char)) (found : List Tile) (covered : Nat)
    (text : List Char) :
    tilesFrom entries found covered text = found.reverse ++ pieces entries (text.drop covered) := by
  induction text generalizing found covered with
  | nil => simp [tilesFrom, pieces]
  | cons c rest ih =>
    cases covered with
    | succ covered => exact ih found covered
    | zero =>
      unfold pieces
      simp only [List.drop_zero, tilesFrom]
      split
      · rw [ih, ih [_]]
        simp
      · rw [ih, ih [_]]
        simp

theorem pieces_of_none (none : startsWith? entries (c :: rest) = none) :
    pieces entries (c :: rest) = .kept c :: pieces entries rest := by
  simp [pieces, tilesFrom, none, tilesFrom_eq entries [.kept c]]

theorem pieces_of_some (full : literal ≠ [])
    (first : startsWith? entries (literal ++ rest) = some (literal, replacement)) :
    pieces entries (literal ++ rest) = .replaced literal replacement :: pieces entries rest := by
  obtain ⟨c, more, rfl⟩ := List.exists_cons_of_ne_nil full
  rw [List.cons_append] at first ⊢
  simp [pieces, tilesFrom, first, tilesFrom_eq entries [.replaced _ _]]

theorem rewrite_of_none (none : startsWith? entries (c :: rest) = none) :
    rewrite entries (c :: rest) = c :: rewrite entries rest := by
  simp [rewrite, pieces_of_none none, Tile.target]

theorem rewrite_of_some (full : literal ≠ [])
    (first : startsWith? entries (literal ++ rest) = some (literal, replacement)) :
    rewrite entries (literal ++ rest) = replacement ++ rewrite entries rest := by
  simp [rewrite, pieces_of_some full first, Tile.target]

/-- The literals and replacements of a table. -/
def pairs (table : SubstitutionTable) : List (List Char × List Char) :=
  table.entries.map fun entry => (entry.1.toList, entry.2.toList)

theorem toList_apply (table : SubstitutionTable) (text : String) :
    (table.apply text).toList = rewrite table.pairs text.toList := String.toList_ofList

theorem apply_ofList (table : SubstitutionTable) (text : List Char) :
    table.apply (String.ofList text) = String.ofList (rewrite table.pairs text) := by
  rw [← String.toList_inj, toList_apply, String.toList_ofList, String.toList_ofList]

/-! ## Parts of a text -/

/-- The text becomes another, whatever follows it. -/
def Turns (entries : List (List Char × List Char)) (before after : List Char) : Prop :=
  ∀ rest, rewrite entries (before ++ rest) = after ++ rewrite entries rest

theorem Turns.nil : Turns entries [] [] := fun _ => rfl

theorem Turns.append {before after before' after' : List Char} (h : Turns entries before after)
    (h' : Turns entries before' after') : Turns entries (before ++ before') (after ++ after') := by
  intro rest
  rw [List.append_assoc, h, h', List.append_assoc]

/-- Every literal starts with one of these: `C`, `M` or `us`. -/
def Marked (entries : List (List Char × List Char)) : Prop :=
  ∀ entry ∈ entries, ['C'] <+: entry.1 ∨ ['M'] <+: entry.1 ∨ ['u', 's'] <+: entry.1

/-- The text has none of these marks, nor a part of one at its end. -/
def quiet : List Char → Bool
  | [] => true
  | 'u' :: rest => rest.head?.any (· ≠ 's') && quiet rest
  | c :: rest => c ≠ 'C' && c ≠ 'M' && quiet rest

theorem startsWith?_eq_none (marked : Marked entries) (notC : c ≠ 'C') (notM : c ≠ 'M')
    (notUs : c = 'u' → ∃ d ∈ text.head?, d ≠ 's') : startsWith? entries (c :: text) = none := by
  refine List.find?_eq_none.2 fun entry mem begins => ?_
  have begins : entry.1 <+: c :: text := List.isPrefixOf_iff_prefix.1 begins
  rcases marked entry mem with mark | mark | mark
  · exact notC (List.cons_prefix_cons.1 (mark.trans begins)).1.symm
  · exact notM (List.cons_prefix_cons.1 (mark.trans begins)).1.symm
  · obtain ⟨same, more⟩ := List.cons_prefix_cons.1 (mark.trans begins)
    obtain ⟨d, first, differ⟩ := notUs same.symm
    obtain ⟨rest, rfl⟩ := more
    exact differ (Option.some.inj first).symm

/-- A quiet text stays as it is. -/
theorem turns_of_quiet (marked : Marked entries) (text : List Char) (calm : quiet text = true) :
    Turns entries text text := by
  fun_induction quiet text with
  | case1 => exact .nil
  | case2 rest ih =>
    simp only [Bool.and_eq_true, Option.any_eq_true] at calm
    obtain ⟨⟨d, first, differ⟩, calm⟩ := calm
    obtain ⟨more, rfl⟩ := List.head?_eq_some_iff.1 first
    intro rest
    have none : startsWith? entries ('u' :: (d :: more ++ rest)) = none :=
      startsWith?_eq_none marked (by decide) (by decide) fun _ => ⟨d, rfl, by simpa using differ⟩
    rw [List.cons_append, rewrite_of_none none, ih calm]
    rfl
  | case3 c rest notU ih =>
    simp only [Bool.and_eq_true, ne_eq, decide_not, Bool.not_eq_true', decide_eq_false_iff_not] at calm
    obtain ⟨⟨notC, notM⟩, calm⟩ := calm
    intro more
    have none : startsWith? entries (c :: (rest ++ more)) = none :=
      startsWith?_eq_none marked notC notM fun same => (notU same).elim
    rw [List.cons_append, rewrite_of_none none, ih calm]
    rfl

theorem quiet_of_forall (free : ∀ c ∈ text, c ∉ ['C', 'M', 'u']) : quiet text = true := by
  fun_induction quiet text with
  | case1 => rfl
  | case2 rest ih => exact absurd (by simp) (free 'u' (by simp))
  | case3 c rest notU ih =>
    obtain ⟨first, others⟩ := List.forall_mem_cons.1 free
    simp only [List.mem_cons, not_or] at first
    simp [first.1, first.2.1, ih others]

/-! ## The legacy runtime -/

/-- Entries of different literals are all added. -/
theorem entries_foldl_adding {table : SubstitutionTable} {more : List (String × String)}
    (full : ∀ literal ∈ more.map Prod.fst, literal ≠ "")
    (distinct : ((table.entries ++ more).map Prod.fst).Nodup) :
    (more.foldl (fun table entry => table.adding entry.1 entry.2) table).entries =
      table.entries ++ more := by
  induction more generalizing table with
  | nil => simp
  | cons entry more ih =>
    have new : table.entries.any (fun known => known.1 = entry.1) = false := by
      refine List.any_eq_false.2 fun known mem same => ?_
      rw [List.map_append] at distinct
      exact (List.nodup_append.1 distinct).2.2 _ (List.mem_map_of_mem mem) entry.1 (by simp)
        (by simpa using same)
    have added : (table.adding entry.1 entry.2).entries = table.entries ++ [entry] := by
      have text : entry.1.isEmpty = false := by simpa using full entry.1 (by simp)
      simp [adding, insert, new, text]
    have split : table.entries ++ entry :: more = (table.adding entry.1 entry.2).entries ++ more := by
      simp [added]
    rw [split] at distinct ⊢
    exact ih (fun literal mem => full literal (List.mem_cons_of_mem _ mem)) distinct

/-- The literals of the legacy runtime, and what becomes of them in a namespace. -/
theorem entries_legacyRuntime (space : String) : (legacyRuntime space).entries =
    [("Carbon.Json.Converters", space ++ ".Runtime.Json"),
      ("Carbon.Internal.Extensions", space ++ ".Runtime.Json"),
      ("Carbon.Internal", space ++ ".Runtime.Json"), ("Carbon.Data", space ++ ".Runtime.Json"),
      ("using Data;", ""), ("using Parser;", ""), ("using Converters;", ""),
      ("using Internal.Extensions;", ""), ("Carbon.Json.Parser", space ++ ".Runtime.Json"),
      ("Carbon.Json", space ++ ".Runtime.Json"), ("Microsoft.Rest.ClientRuntime", space ++ ".Runtime"),
      ("Microsoft.Rest", space)] := by
  refine entries_foldl_adding ?_ ?_
  · simp
  · simp

end CmdletForge.SubstitutionTable
