import CmdletForge.Proofs.Output.Additions

/-!
# Tilings of a text

Reading a text with a table comes to a tiling of the text: a tile is a character at which no literal of the
table starts, or the occurrence of the literal that was added first among those that start there. As no
literal is empty, reading ends, and there is one tiling for every text. The first character of every
occurrence of a literal lies in a tile that is replaced.
-/

namespace CmdletForge.SubstitutionTable

variable {entries : List (List Char × List Char)} {entry : List Char × List Char} {tiles : List Tile}
  {text : List Char}

/-- The literal stands in the text at a place. -/
def OccursAt (literal text : List Char) (place : Nat) : Prop := literal <+: text.drop place

instance (literal text : List Char) (place : Nat) : Decidable (OccursAt literal text place) :=
  inferInstanceAs (Decidable (literal <+: text.drop place))

/-- The first entry of those whose literals start the text. -/
def Earliest (entries : List (List Char × List Char)) (entry : List Char × List Char) (text : List Char) :
    Prop :=
  entry.1 <+: text ∧ ∃ before after, entries = before ++ entry :: after ∧
    ∀ other ∈ before, ¬ other.1 <+: text

/-- The tiles cover the text, one after the other. -/
inductive Tiling (entries : List (List Char × List Char)) : List Tile → List Char → Prop where
  | done : Tiling entries [] []
  | kept {c : Char} {rest : List Char} {tiles : List Tile}
      (none : ∀ entry ∈ entries, ¬ entry.1 <+: c :: rest) (others : Tiling entries tiles rest) :
      Tiling entries (.kept c :: tiles) (c :: rest)
  | replaced {literal replacement rest : List Char} {tiles : List Tile}
      (first : Earliest entries (literal, replacement) (literal ++ rest))
      (others : Tiling entries tiles rest) :
      Tiling entries (.replaced literal replacement :: tiles) (literal ++ rest)

/-- How many characters the tiles cover. -/
def width (tiles : List Tile) : Nat := (tiles.flatMap Tile.source).length

/-- Reads a text in rounds. A round replaces the first literal that starts what is left, or keeps a
character. There is a result if nothing is left after so many rounds. -/
def readFor (entries : List (List Char × List Char)) : (rounds : Nat) → List Char → Option (List Char)
  | _, [] => some []
  | 0, _ :: _ => none
  | rounds + 1, c :: rest =>
    match startsWith? entries (c :: rest) with
    | some (literal, replacement) =>
      (readFor entries rounds ((c :: rest).drop literal.length)).map (replacement ++ ·)
    | none => (readFor entries rounds rest).map (c :: ·)

/-- What a table makes of a text. -/
structure Substitutes (table : SubstitutionTable) (text : String) : Prop where
  /-- Reading ends, with no more rounds than there are characters. -/
  ends : ∀ rounds ≥ text.length,
    readFor table.pairs rounds text.toList = some (table.apply text).toList
  tiled : ∃! tiles, Tiling table.pairs tiles text.toList
  covered : ∀ tiles, Tiling table.pairs tiles text.toList → tiles.flatMap Tile.source = text.toList
  output : ∀ tiles, Tiling table.pairs tiles text.toList →
    (table.apply text).toList = tiles.flatMap Tile.target
  /-- Every occurrence of a literal starts in a tile that is replaced. -/
  touched : ∀ tiles, Tiling table.pairs tiles text.toList → ∀ entry ∈ table.pairs, ∀ place,
    OccursAt entry.1 text.toList place → ∃ front literal replacement back,
      tiles = front ++ .replaced literal replacement :: back ∧
        width front ≤ place ∧ place < width front + literal.length
  idle : (∀ entry ∈ table.pairs, ¬ entry.1 <:+: text.toList) → table.apply text = text

theorem width_cons (tile : Tile) (tiles : List Tile) :
    width (tile :: tiles) = tile.source.length + width tiles := by
  rw [width, List.flatMap_cons, List.length_append, width]

/-! ## The first literal of a text -/

theorem startsWith?_eq_some_iff : startsWith? entries text = some entry ↔ Earliest entries entry text := by
  simp only [startsWith?, Earliest, List.find?_eq_some_iff_append, List.isPrefixOf_iff_prefix,
    Bool.not_eq_true', ← Bool.not_eq_true]

theorem startsWith?_eq_none_iff :
    startsWith? entries text = none ↔ ∀ entry ∈ entries, ¬ entry.1 <+: text := by
  simp [startsWith?]

/-- Which entry counts depends only on the literals that start the text. -/
theorem startsWith?_congr {other : List Char}
    (same : ∀ entry ∈ entries, entry.1 <+: text ↔ entry.1 <+: other) :
    startsWith? entries text = startsWith? entries other := by
  rw [startsWith?, startsWith?, ← List.head?_filter, ← List.head?_filter]
  refine congrArg _ (List.filter_congr fun entry mem => ?_)
  rw [Bool.eq_iff_iff, List.isPrefixOf_iff_prefix, List.isPrefixOf_iff_prefix]
  exact same entry mem

theorem Earliest.mem (first : Earliest entries entry text) : entry ∈ entries := by
  obtain ⟨-, before, after, rfl, -⟩ := first
  exact List.mem_append_right _ List.mem_cons_self

/-! ## One tiling for every text -/

theorem tiling_pieces (full : ∀ entry ∈ entries, entry.1 ≠ []) (text : List Char) :
    Tiling entries (pieces entries text) text := by
  -- The recursion is on what is left: a literal takes several characters at once.
  match text with
  | [] => exact .done
  | c :: more =>
    cases found : startsWith? entries (c :: more) with
    | none =>
      rw [pieces_of_none found]
      exact .kept (startsWith?_eq_none_iff.1 found) (tiling_pieces full more)
    | some entry =>
      obtain ⟨literal, replacement⟩ := entry
      have first := startsWith?_eq_some_iff.1 found
      obtain ⟨behind, whole : literal ++ behind = c :: more⟩ := first.1
      have nonempty : literal ≠ [] := full _ first.mem
      have shorter : behind.length < (c :: more).length := by
        have positive : 0 < literal.length := List.length_pos_iff.2 nonempty
        rw [← whole, List.length_append]
        omega
      rw [← whole] at found first ⊢
      rw [pieces_of_some nonempty found]
      exact .replaced first (tiling_pieces full behind)
termination_by text.length
decreasing_by
  · exact Nat.lt_succ_self more.length
  · exact shorter

namespace Tiling

theorem eq_pieces (full : ∀ entry ∈ entries, entry.1 ≠ []) (tiling : Tiling entries tiles text) :
    tiles = pieces entries text := by
  induction tiling with
  | done => rfl
  | kept none _ ih => rw [pieces_of_none (startsWith?_eq_none_iff.2 none), ih]
  | replaced first _ ih => rw [pieces_of_some (full _ first.mem) (startsWith?_eq_some_iff.2 first), ih]

/-- Whatever is replaced is in the table. -/
theorem mem_entries (tiling : Tiling entries tiles text) {literal replacement : List Char}
    (mem : .replaced literal replacement ∈ tiles) : (literal, replacement) ∈ entries := by
  induction tiling with
  | done => contradiction
  | kept _ _ ih => exact ih ((List.mem_cons.1 mem).resolve_left (by simp))
  | replaced first _ ih =>
    rcases List.mem_cons.1 mem with same | mem
    · obtain ⟨rfl, rfl⟩ := Tile.replaced.inj same
      exact first.mem
    · exact ih mem

/-- The tiles cover the text. -/
theorem source (tiling : Tiling entries tiles text) : tiles.flatMap Tile.source = text := by
  induction tiling with
  | done => rfl
  | kept _ _ ih => simp [Tile.source, ih]
  | replaced _ _ ih => simp [Tile.source, ih]

/-- Behind some of the tiles, the others cover what is left of the text. -/
theorem behind {front back : List Tile} (tiling : Tiling entries (front ++ back) text) :
    Tiling entries back (text.drop (width front)) := by
  induction front generalizing text with
  | nil => exact tiling
  | cons tile front ih =>
    cases tiling with
    | kept _ others =>
      have rest := ih others
      rwa [width_cons, Tile.source, List.length_singleton, Nat.add_comm, List.drop_succ_cons]
    | replaced _ others =>
      have rest := ih others
      rwa [width_cons, Tile.source, List.drop_length_add_append]

/-- Reading takes a round for every tile. -/
theorem readFor (full : ∀ entry ∈ entries, entry.1 ≠ []) (tiling : Tiling entries tiles text)
    {rounds : Nat} (enough : tiles.length ≤ rounds) :
    SubstitutionTable.readFor entries rounds text = some (tiles.flatMap Tile.target) := by
  induction tiling generalizing rounds with
  | done => rw [SubstitutionTable.readFor, List.flatMap_nil]
  | kept none _ ih =>
    obtain ⟨rounds, rfl⟩ := Nat.exists_eq_add_one_of_ne_zero (Nat.ne_zero_of_lt enough)
    have rest := ih (Nat.le_of_succ_le_succ enough)
    simp [SubstitutionTable.readFor, startsWith?_eq_none_iff.2 none, rest, Tile.target]
  | @replaced literal replacement rest tiles first _ ih =>
    obtain ⟨rounds, rfl⟩ := Nat.exists_eq_add_one_of_ne_zero (Nat.ne_zero_of_lt enough)
    have others := ih (Nat.le_of_succ_le_succ enough)
    have found := startsWith?_eq_some_iff.2 first
    obtain ⟨c, more, rfl⟩ := List.exists_cons_of_ne_nil (full _ first.mem)
    have left : ((c :: more) ++ rest).drop (c :: more).length = rest := List.drop_left
    rw [List.cons_append] at found left ⊢
    rw [SubstitutionTable.readFor, found]
    dsimp only
    rw [left, others, Option.map_some, List.flatMap_cons, Tile.target]

/-- There are no more tiles than characters. -/
theorem length_le (full : ∀ entry ∈ entries, entry.1 ≠ []) (tiling : Tiling entries tiles text) :
    tiles.length ≤ text.length := by
  induction tiling with
  | done => exact Nat.le_refl 0
  | kept _ _ ih => exact Nat.succ_le_succ ih
  | replaced first _ ih =>
    have positive := List.length_pos_iff.2 (full _ first.mem)
    dsimp only at positive
    rw [List.length_cons, List.length_append]
    omega

/-! ## Where literals occur -/

/-- The first character of an occurrence lies in a tile that is replaced. -/
theorem exists_replaced (full : ∀ entry ∈ entries, entry.1 ≠ []) (tiling : Tiling entries tiles text)
    (mem : entry ∈ entries) {place : Nat} (occurs : OccursAt entry.1 text place) :
    ∃ front literal replacement back, tiles = front ++ .replaced literal replacement :: back ∧
      width front ≤ place ∧ place < width front + literal.length := by
  induction tiling generalizing place with
  | done => exact absurd (List.prefix_nil.1 (List.drop_nil ▸ occurs)) (full _ mem)
  | kept none _ ih =>
    cases place with
    | zero => exact absurd occurs (none _ mem)
    | succ place =>
      obtain ⟨front, literal, replacement, back, rfl, start, stop⟩ := ih occurs
      refine ⟨.kept _ :: front, literal, replacement, back, rfl, ?_⟩
      rw [width_cons, Tile.source, List.length_singleton]
      omega
  | @replaced literal replacement rest tiles _ _ ih =>
    by_cases inside : place < literal.length
    · refine ⟨[], literal, replacement, tiles, rfl, Nat.zero_le place, ?_⟩
      simpa [width] using inside
    · obtain ⟨place, rfl⟩ := Nat.exists_eq_add_of_le (Nat.le_of_not_lt inside)
      rw [OccursAt, List.drop_length_add_append] at occurs
      obtain ⟨front, other, put, back, rfl, start, stop⟩ := ih occurs
      refine ⟨.replaced literal replacement :: front, other, put, back, rfl, ?_⟩
      rw [width_cons, Tile.source]
      omega

/-- A text without literals stays as it is. -/
theorem target_eq (tiling : Tiling entries tiles text) (clean : ∀ entry ∈ entries, ¬ entry.1 <:+: text) :
    tiles.flatMap Tile.target = text := by
  induction tiling with
  | done => rfl
  | @kept c rest _ _ _ ih =>
    have others := ih fun entry mem inside => clean entry mem (inside.trans (List.suffix_cons c rest).isInfix)
    rw [List.flatMap_cons, others, Tile.target, List.singleton_append]
  | replaced first _ _ => exact absurd first.1.isInfix (clean _ first.mem)

end Tiling

/-! ## What a table does -/

theorem substitutes_of_full {table : SubstitutionTable} (full : ∀ entry ∈ table.pairs, entry.1 ≠ [])
    (text : String) : Substitutes table text := by
  have tiling := tiling_pieces full text.toList
  have output := toList_apply table text
  have only : ∀ tiles, Tiling table.pairs tiles text.toList → tiles = pieces table.pairs text.toList :=
    fun tiles tiled => tiled.eq_pieces full
  refine ⟨fun rounds enough => ?_, ⟨_, tiling, only⟩, fun tiles tiled => tiled.source,
    fun tiles tiled => ?_, fun tiles tiled => ?_, fun clean => ?_⟩
  · have count := tiling.length_le full
    rw [String.length_toList] at count
    rw [output]
    exact tiling.readFor full (count.trans enough)
  · rw [output, only tiles tiled]
    rfl
  · exact fun entry mem place occurs => tiled.exists_replaced full mem occurs
  · rw [← String.toList_inj, output]
    exact tiling.target_eq clean

/-- **What a table does to a text.** A table that was made by additions keeps the first entry of every
literal. Whatever the text is, reading it ends; there is one tiling of it, and the result is what the tiles
become. -/
theorem ofAdditions_substitutes (additions : List (String × String)) :
    KeepsFirst additions (ofAdditions additions) ∧
      ∀ text, Substitutes (ofAdditions additions) text :=
  ⟨keepsFirst_ofAdditions additions, substitutes_of_full (full_ofAdditions additions)⟩

/-- The earlier of two literals is replaced though the later is longer, and what was put in is not read
again. -/
example : ((ofAdditions [("Foo", "Foo.Foo"), ("Foo.Bar", "Y"), ("Foo", "Z")]).apply "Foo.Bar").toList =
    "Foo.Foo.Bar".toList := by
  decide

end CmdletForge.SubstitutionTable
