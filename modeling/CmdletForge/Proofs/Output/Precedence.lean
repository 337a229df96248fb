import CmdletForge.Proofs.Output.Tiling

/-!
# The order of entries

Two literals start one text only if one is a prefix of the other. So the order of the entries decides only
which of two such literals counts: tables with the same entries do the same to every text if these literals
stand in the same order in both. Where no literal stands before one that it is a prefix of, the longest
literal is replaced; so it is in the table of the legacy runtime.
-/

namespace CmdletForge.SubstitutionTable

variable {entries others : List (List Char × List Char)} {entry other : List Char × List Char}
  {text : List Char} {table : SubstitutionTable}

/-- An entry stands somewhere before another. -/
def Precedes (entries : List (List Char × List Char)) (entry other : List Char × List Char) : Prop :=
  [entry, other].Sublist entries

instance (entries : List (List Char × List Char)) (entry other : List Char × List Char) :
    Decidable (Precedes entries entry other) :=
  inferInstanceAs (Decidable ([entry, other].Sublist entries))

/-- Two tables have the same entries. Two literals of which one is a prefix of the other stand in the same
order in both. -/
structure Agree (table other : SubstitutionTable) : Prop where
  same : ∀ entry, entry ∈ table.pairs ↔ entry ∈ other.pairs
  order : ∀ first ∈ table.pairs, ∀ second ∈ table.pairs, first.1 <+: second.1 ∨ second.1 <+: first.1 →
    (Precedes table.pairs first second ↔ Precedes other.pairs first second)

/-- No literal is a prefix of a later one. -/
def LongestFirst (entries : List (List Char × List Char)) : Prop :=
  entries.Pairwise fun first second => ¬ first.1 <+: second.1

/-- A table replaces where a literal starts that is not covered yet, and there it replaces the longest. -/
structure LeftmostLongest (table : SubstitutionTable) (text : String) : Prop where
  output : (table.apply text).toList = (table.tiles text).flatMap Tile.target
  kept : ∀ front c back, table.tiles text = front ++ .kept c :: back →
    ∀ entry ∈ table.pairs, ¬ OccursAt entry.1 text.toList (width front)
  replaced : ∀ front literal replacement back,
    table.tiles text = front ++ .replaced literal replacement :: back →
    OccursAt literal text.toList (width front) ∧ ∀ entry ∈ table.pairs,
      OccursAt entry.1 text.toList (width front) → entry.1.length ≤ literal.length

/-! ## Which entry counts -/

theorem Precedes.asymm (distinct : entries.Nodup) (before : Precedes entries entry other) :
    ¬ Precedes entries other entry := by
  induction entries with
  | nil => cases before
  | cons head rest ih =>
    obtain ⟨apart, distinct⟩ := List.nodup_cons.1 distinct
    cases before with
    | cons _ inside =>
      rintro (_ | ⟨_, after⟩ | ⟨_, after⟩)
      · exact ih distinct inside after
      · exact apart (inside.subset (by simp))
    | cons_cons _ inside =>
      rintro (_ | ⟨_, after⟩ | ⟨_, after⟩)
      · exact apart (after.subset (by simp))
      · exact apart (inside.subset (by simp))

/-- The first entry that starts a text stands before the others that start it. -/
theorem Earliest.precedes (first : Earliest entries entry text) (mem : other ∈ entries)
    (starts : other.1 <+: text) : other = entry ∨ Precedes entries entry other := by
  obtain ⟨-, before, after, rfl, none⟩ := first
  rcases List.mem_append.1 mem with mem | mem
  · exact absurd starts (none other mem)
  · rcases List.mem_cons.1 mem with same | mem
    · exact .inl same
    · have behind : [entry, other].Sublist (entry :: after) := (List.singleton_sublist.2 mem).cons_cons entry
      exact .inr (behind.trans (List.sublist_append_right before _))

theorem Agree.startsWith?_eq {other : SubstitutionTable} (agree : Agree table other)
    (distinct : table.pairs.Nodup) (text : List Char) :
    startsWith? table.pairs text = startsWith? other.pairs text := by
  cases found : startsWith? table.pairs text with
  | none =>
    rw [startsWith?_eq_none_iff] at found
    exact (startsWith?_eq_none_iff.2 fun entry mem => found entry ((agree.same entry).2 mem)).symm
  | some entry =>
    have first := startsWith?_eq_some_iff.1 found
    cases found' : startsWith? other.pairs text with
    | none =>
      exact absurd first.1 (startsWith?_eq_none_iff.1 found' entry ((agree.same entry).1 first.mem))
    | some entry' =>
      have first' := startsWith?_eq_some_iff.1 found'
      have mem' := (agree.same entry').2 first'.mem
      -- Both start the text, so one is a prefix of the other, and each would stand before the other.
      rcases first.precedes mem' first'.1 with same | before
      · rw [same]
      rcases first'.precedes ((agree.same entry).1 first.mem) first.1 with same | after
      · rw [same]
      have comparable := List.prefix_or_prefix_of_prefix first'.1 first.1
      have after := (agree.order entry' mem' entry first.mem comparable).2 after
      exact absurd after (before.asymm distinct)

/-- What a text becomes depends on which entry counts at every place, and on nothing else. -/
theorem tilesFrom_congr (same : ∀ text, startsWith? entries text = startsWith? others text)
    (found : List Tile) (covered : Nat) (text : List Char) :
    tilesFrom entries found covered text = tilesFrom others found covered text := by
  induction text generalizing found covered with
  | nil => rfl
  | cons c rest ih =>
    cases covered with
    | succ covered => exact ih found covered
    | zero =>
      rw [tilesFrom, tilesFrom, same]
      split
      · exact ih ..
      · exact ih ..

theorem Agree.apply_eq {other : SubstitutionTable} (agree : Agree table other)
    (distinct : table.pairs.Nodup) (text : String) : table.apply text = other.apply text := by
  have tiles : pieces table.pairs text.toList = pieces other.pairs text.toList :=
    tilesFrom_congr (agree.startsWith?_eq distinct) [] 0 text.toList
  rw [← String.toList_inj, toList_apply, toList_apply, rewrite, rewrite, tiles]

/-! ## The longest literal -/

theorem Earliest.length_le (longest : LongestFirst entries) (first : Earliest entries entry text)
    (mem : other ∈ entries) (starts : other.1 <+: text) : other.1.length ≤ entry.1.length := by
  rcases first.precedes mem starts with rfl | before
  · exact Nat.le_refl _
  · have apart : ¬ entry.1 <+: other.1 := List.pairwise_iff_forall_sublist.1 longest before
    exact ((List.prefix_or_prefix_of_prefix first.1 starts).resolve_left apart).length_le

theorem leftmostLongest_of_longestFirst (full : ∀ entry ∈ table.pairs, entry.1 ≠ [])
    (longest : LongestFirst table.pairs) (text : String) : LeftmostLongest table text := by
  have tiling : Tiling table.pairs (table.tiles text) text.toList := tiling_pieces full text.toList
  refine ⟨toList_apply table text, ?_, ?_⟩
  · intro front c back tiles entry mem
    have rest := (tiles ▸ tiling).behind
    rw [OccursAt]
    generalize text.toList.drop (width front) = left at rest ⊢
    cases rest with
    | kept none _ => exact none entry mem
  · intro front literal replacement back tiles
    have rest := (tiles ▸ tiling).behind
    simp only [OccursAt]
    generalize text.toList.drop (width front) = left at rest ⊢
    cases rest with
    | replaced first _ => exact ⟨first.1, fun entry mem starts => first.length_le longest mem starts⟩

/-! ## Tables made by additions -/

theorem longestFirst_legacyRuntime (space : String) : LongestFirst (legacyRuntime space).pairs := by
  have literals : ((legacyRuntime space).pairs.map Prod.fst).Pairwise fun first second =>
      ¬ first <+: second := by
    rw [pairs, entries_legacyRuntime]
    simp only [List.map_cons, List.map_nil]
    decide +kernel
  exact List.pairwise_map.1 literals

/-- **The order of entries matters only between a literal and its prefixes.** Tables that agree there do the
same to every text. The table of the legacy runtime has every literal before its prefixes, and so it
replaces the longest. -/
theorem order_among_prefixes :
    (∀ additions reordered, Agree (ofAdditions additions) (ofAdditions reordered) →
      ∀ text, (ofAdditions additions).apply text = (ofAdditions reordered).apply text) ∧
    ∀ space text, LeftmostLongest (legacyRuntime space) text := by
  refine ⟨fun additions reordered agree => agree.apply_eq ?_, fun space => ?_⟩
  · exact List.Nodup.of_map Prod.fst (nodup_ofAdditions additions)
  · have made : legacyRuntime space = ofAdditions _ := rfl
    have full : ∀ entry ∈ (legacyRuntime space).pairs, entry.1 ≠ [] := made ▸ full_ofAdditions _
    exact leftmostLongest_of_longestFirst full (longestFirst_legacyRuntime space)

/-- A literal with one of its prefixes, and one that overlaps both. -/
def overlapping : List (String × String) := [("Foo.Bar", "A"), ("Foo", "B"), ("Bar.Baz", "C")]

/-- The literal still stands before its prefix. -/
def overlappingMoved : List (String × String) := [("Bar.Baz", "C"), ("Foo.Bar", "A"), ("Foo", "B")]

theorem overlapping_moved : Agree (ofAdditions overlapping) (ofAdditions overlappingMoved) ∧
    (∀ text, (ofAdditions overlapping).apply text = (ofAdditions overlappingMoved).apply text) ∧
    LeftmostLongest (legacyRuntime "Kennel") "using Carbon.Json.Parser;" := by
  have agree : Agree (ofAdditions overlapping) (ofAdditions overlappingMoved) := by
    have moved : (ofAdditions overlapping).pairs.Perm (ofAdditions overlappingMoved).pairs := by
      decide +kernel
    exact ⟨fun entry => moved.mem_iff, by decide +kernel⟩
  exact ⟨agree, order_among_prefixes.1 _ _ agree, order_among_prefixes.2 _ _⟩

/-- A literal that stands behind its prefix is never replaced. -/
example : ((ofAdditions [("Foo", "B"), ("Foo.Bar", "A")]).apply "Foo.Bar").toList = "B.Bar".toList := by
  decide

end CmdletForge.SubstitutionTable
