import CmdletForge.Proofs.Naming.Scanning
import Mathlib.Data.List.Pairwise
import Mathlib.Data.List.SplitBy

/-!
# Where words start

The rules for the beginning of a word are about a position of a text and its two neighbours, whatever stands
elsewhere. `StartsAt` has one case for each rule. The letters and numbers of a text are cut at these positions
and nowhere else: `Parts` says this of characters together with their positions, so that none can be lost,
doubled or moved, and there is only one way to do it. The words of an identifier are these parts in lowercase.
-/

namespace CmdletForge.Naming

open CmdletForge.Text

/-! ## Positions -/

/-- A word starts at a position of a text. -/
inductive StartsAt (chars : List Char) : Nat → Prop
  | first {c : Char} (here : chars[0]? = some c) (alnum : isAlphanumeric c = true) : StartsAt chars 0
  | apart {i : Nat} {prev c : Char} (before : chars[i]? = some prev) (here : chars[i + 1]? = some c)
    (alnum : isAlphanumeric c = true) (apart : isAlphanumeric prev = false) : StartsAt chars (i + 1)
  | hump {i : Nat} {prev c : Char} (before : chars[i]? = some prev) (here : chars[i + 1]? = some c)
    (alnum : isAlphanumeric c = true) (upper : isUppercase c = true)
    (low : isLowercase prev = true ∨ isNumeric prev = true) : StartsAt chars (i + 1)
  | acronym {i : Nat} {prev c next : Char} (before : chars[i]? = some prev) (here : chars[i + 1]? = some c)
    (alnum : isAlphanumeric c = true) (upper : isUppercase c = true) (run : isUppercase prev = true)
    (behind : chars[i + 2]? = some next) (low : isLowercase next = true) : StartsAt chars (i + 1)

section StartsAt

variable {before rest : List Char} {prev c : Char} {i : Nat}

/-- A word starts at letters and numbers only. -/
theorem StartsAt.exists_char {chars : List Char} (starts : StartsAt chars i) :
    ∃ c, chars[i]? = some c ∧ isAlphanumeric c = true := by
  cases starts with
  | first here alnum => exact ⟨_, here, alnum⟩
  | apart before here alnum => exact ⟨_, here, alnum⟩
  | hump before here alnum => exact ⟨_, here, alnum⟩
  | acronym before here alnum => exact ⟨_, here, alnum⟩

/-- The rules, for a character behind another one. -/
theorem startsAt_iff : StartsAt (before ++ prev :: c :: rest) (before.length + 1) ↔
    isAlphanumeric c = true ∧ (isAlphanumeric prev = true → startsWord prev c rest.head? = true) := by
  have one : (before ++ prev :: c :: rest)[before.length]? = some prev := by simp
  have two : (before ++ prev :: c :: rest)[before.length + 1]? = some c := by
    rw [List.getElem?_append_right (Nat.le_add_right _ _)]
    simp
  have three : (before ++ prev :: c :: rest)[before.length + 2]? = rest.head? := by
    rw [List.getElem?_append_right (Nat.le_add_right _ _), List.head?_eq_getElem?]
    simp
  constructor
  · intro starts
    cases starts with
    | apart former here alnum apart => simp_all
    | hump former here alnum upper low => simp_all [startsWord]
    | acronym former here alnum upper run behind low =>
      rw [three] at behind
      simp_all [startsWord]
  · rintro ⟨alnum, word⟩
    cases known : isAlphanumeric prev with
    | false => exact .apart one two alnum known
    | true =>
      have word := word known
      simp only [startsWord, Bool.and_eq_true, Bool.or_eq_true] at word
      obtain ⟨upper, low | ⟨run, next⟩⟩ := word
      · exact .hump one two alnum upper low
      · obtain ⟨d, behind, low⟩ := (Option.any_eq_true _ _).1 next
        exact .acronym one two alnum upper run (by rw [three, behind]) low

end StartsAt

/-! ## Parts -/

/-- The letters and numbers of a text, with their positions. The text begins at a given position. -/
def kept (start : Nat) (chars : List Char) : List (Char × Nat) :=
  (chars.zipIdx start).filter fun entry => isAlphanumeric entry.1

/-- The letters and numbers of a text in parts, which begin where words start and nowhere else. -/
structure Parts (chars : List Char) (parts : List (List (Char × Nat))) : Prop where
  nonempty : ∀ part ∈ parts, part ≠ []
  whole : parts.flatten = kept 0 chars
  starts : ∀ i, (∃ part ∈ parts, ∃ c, part.head? = some (c, i)) ↔ StartsAt chars i

/-- The characters of parts in lowercase. -/
def tokensOf (parts : List (List (Char × Nat))) : List String :=
  parts.map fun part => lowered (part.map (·.1))

section Kept

variable {start i : Nat} {c : Char} {cs chars : List Char}

theorem kept_of_alnum (alnum : isAlphanumeric c = true) :
    kept start (c :: cs) = (c, start) :: kept (start + 1) cs := by
  rw [kept, List.zipIdx_cons, List.filter_cons]
  exact if_pos alnum

theorem kept_of_apart (apart : isAlphanumeric c = false) : kept start (c :: cs) = kept (start + 1) cs := by
  rw [kept, List.zipIdx_cons, List.filter_cons]
  exact if_neg (by simp [apart])

theorem mem_kept_iff :
    (c, i) ∈ kept start chars ↔ (start ≤ i ∧ chars[i - start]? = some c) ∧ isAlphanumeric c = true := by
  rw [kept, List.mem_filter, List.mk_mem_zipIdx_iff_le_and_getElem?_sub]

theorem nodup_kept (start : Nat) (chars : List Char) : (kept start chars).Nodup := by
  refine List.Nodup.filter _ (List.Nodup.of_map (·.2) ?_)
  rw [List.zipIdx_map_snd]
  exact List.nodup_range'

end Kept

/-! ## There is one way -/

section Unique

variable {chars : List Char} {parts parts' : List (List (Char × Nat))}

/-- What is nowhere twice is in one part only. -/
theorem eq_of_mem_of_nodup_flatten {α : Type} {parts : List (List α)} (distinct : parts.flatten.Nodup)
    {part part' : List α} (mem : part ∈ parts) (mem' : part' ∈ parts) {a : α} (here : a ∈ part)
    (there : a ∈ part') : part = part' := by
  have symm : Std.Symm (List.Disjoint (α := α)) := ⟨fun _ _ disjoint _ left right => disjoint right left⟩
  by_contra other
  exact (List.nodup_flatten.1 distinct).2.forall mem mem' other here there

/-- No word starts inside of a part. -/
theorem Parts.not_startsAt (its : Parts chars parts) {first entry : Char × Nat} {own : List (Char × Nat)}
    (mem : first :: own ∈ parts) (inside : entry ∈ own) : ¬ StartsAt chars entry.2 := by
  intro starts
  obtain ⟨part, mem', c, head⟩ := (its.starts entry.2).2 starts
  obtain ⟨own', rfl⟩ := List.head?_eq_some_iff.1 head
  have distinct : parts.flatten.Nodup := by
    rw [its.whole]
    exact nodup_kept 0 chars
  have listed {e : Char × Nat} {part : List (Char × Nat)} (mem : part ∈ parts) (its' : e ∈ part) :
      chars[e.2]? = some e.1 := by
    have found : e ∈ parts.flatten := List.mem_flatten.2 ⟨part, mem, its'⟩
    rw [its.whole] at found
    exact (mem_kept_iff.1 found).1.2
  -- The character at the position is one, so it begins a part and stands inside of one.
  have same : (c, entry.2) = entry := by
    have here := listed mem (List.mem_cons_of_mem first inside)
    rw [listed mem' List.mem_cons_self] at here
    exact Prod.ext (Option.some.inj here) rfl
  rw [same] at mem'
  have one := eq_of_mem_of_nodup_flatten distinct mem mem' (List.mem_cons_of_mem first inside)
    List.mem_cons_self
  obtain ⟨rfl, -⟩ := List.cons.inj one
  exact (List.nodup_cons.1 ((List.nodup_flatten.1 distinct).1 _ mem)).1 inside

open Classical in
/-- The parts are what the letters and numbers are split into at the positions where words start. -/
theorem Parts.eq_splitBy (its : Parts chars parts) :
    (kept 0 chars).splitBy (fun _ entry => !decide (StartsAt chars entry.2)) = parts := by
  refine List.splitBy_eq_iff.2 ⟨its.whole.symm, fun empty => its.nonempty [] empty rfl, ?_, ?_⟩
  · intro part mem
    obtain ⟨first, own, rfl⟩ := List.exists_cons_of_ne_nil (its.nonempty part mem)
    have free : ∀ entry ∈ own, ¬ StartsAt chars entry.2 := fun entry inside => its.not_startsAt mem inside
    refine List.Pairwise.isChain (List.pairwise_cons.2 ⟨by simpa using free, ?_⟩)
    exact List.pairwise_of_forall_mem_list fun _ _ entry inside => by simpa using free entry inside
  · refine List.Pairwise.isChain (List.pairwise_of_forall_mem_list fun part mem part' mem' => ?_)
    obtain ⟨first, own, rfl⟩ := List.exists_cons_of_ne_nil (its.nonempty part' mem')
    refine ⟨its.nonempty part mem, List.cons_ne_nil _ _, ?_⟩
    have starts : StartsAt chars first.2 := (its.starts first.2).1 ⟨_, mem', first.1, rfl⟩
    simp only [List.head_cons, starts, decide_true, Bool.not_true]

theorem Parts.unique (its : Parts chars parts) (its' : Parts chars parts') : parts = parts' :=
  its.eq_splitBy.symm.trans its'.eq_splitBy

end Unique

/-! ## The pieces are parts -/

section Pieces

variable {before rest ds : List Char} {c d : Char} {parts : List (List (Char × Nat))}

/-- The pieces of the rest of a text, with their positions: no word starts inside of one, and one starts where
one begins, but for a first one that begins with the rest. -/
structure Laid (before rest : List Char) (parts : List (List (Char × Nat))) : Prop where
  chars : parts.map (fun part => part.map (·.1)) = pieces rest
  whole : parts.flatten = kept before.length rest
  inner : ∀ part ∈ parts, ∀ entry ∈ part.tail, ¬ StartsAt (before ++ rest) entry.2
  opens : ∀ part ∈ parts.tail, ∀ entry ∈ part.head?, StartsAt (before ++ rest) entry.2
  first : ∀ part ∈ parts.head?, ∀ entry ∈ part.head?,
    entry.2 = before.length ∨ StartsAt (before ++ rest) entry.2

theorem Laid.ne_nil (laid : Laid before rest parts)
    {part : List (Char × Nat)} (mem : part ∈ parts) : part ≠ [] := by
  rintro rfl
  have piece : [] ∈ pieces rest := by
    rw [← laid.chars]
    exact List.mem_map.2 ⟨[], mem, rfl⟩
  exact pieces_ne_nil piece rfl

/-- A part behind a character begins where a word starts, if the character belongs to another word or none. -/
theorem Laid.begins (laid : Laid (before ++ [c]) rest parts)
    (cut : isAlphanumeric c = true → ∀ d ∈ rest.head?, isAlphanumeric d = true →
      startsWord c d rest.tail.head? = true) :
    ∀ part ∈ parts, ∀ entry ∈ part.head?, StartsAt (before ++ c :: rest) entry.2 := by
  intro part mem entry head
  have text : before ++ c :: rest = before ++ [c] ++ rest := by simp
  cases parts with
  | nil => contradiction
  | cons front others =>
    rcases List.mem_cons.1 mem with rfl | mem
    · rcases laid.first part rfl entry head with here | starts
      · -- The character right behind is the beginning of the part.
        obtain ⟨d, i⟩ := entry
        obtain rfl : i = (before ++ [c]).length := here
        have listed : (d, (before ++ [c]).length) ∈ kept (before ++ [c]).length rest := by
          rw [← laid.whole]
          exact List.mem_flatten.2 ⟨part, List.mem_cons_self, List.mem_of_mem_head? head⟩
        obtain ⟨⟨-, placed⟩, alnum⟩ := mem_kept_iff.1 listed
        cases rest with
        | nil => simp at placed
        | cons e ds =>
          obtain rfl : e = d := by simpa using placed
          rw [List.length_append, List.length_singleton]
          exact startsAt_iff.2 ⟨alnum, fun known => cut known e rfl alnum⟩
      · rwa [text]
    · rw [text]
      exact laid.opens part mem entry head

/-- A character before parts of the rest, which is cut off from them. -/
theorem Laid.cut (laid : Laid (before ++ [c]) (d :: ds) parts) (alnum : isAlphanumeric c = true)
    (cut : ¬ (isAlphanumeric d && !startsWord c d ds.head?) = true) :
    Laid before (c :: d :: ds) ([(c, before.length)] :: parts) := by
  have opens := laid.begins fun _ e its here => by
    obtain rfl : d = e := Option.some.inj its
    simpa [here] using cut
  have inner := laid.inner
  rw [List.append_assoc, List.singleton_append] at inner
  have whole := laid.whole
  rw [List.length_append, List.length_singleton] at whole
  refine ⟨?_, ?_, ?_, opens, by simp⟩
  · rw [pieces, if_pos alnum, if_neg cut, ← laid.chars]
    rfl
  · rw [kept_of_alnum alnum, ← whole]
    rfl
  · intro part mem entry inside
    rcases List.mem_cons.1 mem with rfl | mem
    · contradiction
    · exact inner part mem entry inside

/-- A character before parts of the rest, which goes to the first of them. -/
theorem Laid.join (laid : Laid (before ++ [c]) (d :: ds) parts) (alnum : isAlphanumeric c = true)
    (joined : (isAlphanumeric d && !startsWord c d ds.head?) = true) :
    ∃ parts, Laid before (c :: d :: ds) parts := by
  obtain ⟨here, goesOn⟩ := Bool.and_eq_true_iff.1 joined
  have whole := laid.whole
  rw [kept_of_alnum here, List.length_append, List.length_singleton] at whole
  -- The first of the parts begins with the character behind.
  obtain ⟨own, others, rfl⟩ : ∃ own others, parts = ((d, before.length + 1) :: own) :: others := by
    cases parts with
    | nil => contradiction
    | cons part others =>
      obtain ⟨entry, own, rfl⟩ := List.exists_cons_of_ne_nil (laid.ne_nil List.mem_cons_self)
      obtain ⟨rfl, -⟩ := List.cons.inj whole
      exact ⟨own, others, rfl⟩
  have inner := laid.inner
  have opens := laid.opens
  rw [List.append_assoc, List.singleton_append] at inner opens
  refine ⟨((c, before.length) :: (d, before.length + 1) :: own) :: others, ?_, ?_, ?_, opens, by simp⟩
  · rw [pieces, if_pos alnum, if_pos joined, ← laid.chars]
    rfl
  · rw [kept_of_alnum alnum, kept_of_alnum here, ← whole]
    rfl
  · intro part mem entry inside
    rcases List.mem_cons.1 mem with rfl | mem
    · rcases List.mem_cons.1 inside with rfl | inside
      · intro starts
        have word := (startsAt_iff.1 starts).2 alnum
        simp [word] at goesOn
      · exact inner _ List.mem_cons_self entry inside
    · exact inner part (List.mem_cons_of_mem _ mem) entry inside

/-- A character before parts of the rest, which is in none. -/
theorem Laid.skip (laid : Laid (before ++ [c]) rest parts) (apart : isAlphanumeric c = false) :
    Laid before (c :: rest) parts := by
  have opens := laid.begins fun known => by
    rw [apart] at known
    contradiction
  have inner := laid.inner
  rw [List.append_assoc, List.singleton_append] at inner
  have whole := laid.whole
  rw [List.length_append, List.length_singleton] at whole
  refine ⟨?_, ?_, inner, ?_, ?_⟩
  · rw [pieces_cons_of_apart apart, laid.chars]
  · rw [kept_of_apart apart, whole]
  · exact fun part mem => opens part (List.mem_of_mem_tail mem)
  · exact fun part mem entry head => .inr (opens part (List.mem_of_mem_head? mem) entry head)

theorem exists_laid (before rest : List Char) : ∃ parts, Laid before rest parts := by
  induction rest using pieces.induct generalizing before with
  | case1 => exact ⟨[], rfl, rfl, by simp, by simp, by simp⟩
  | case2 c alnum =>
    refine ⟨[[(c, before.length)]], ?_, ?_, by simp, by simp, by simp⟩
    · simp [pieces, alnum]
    · rw [kept_of_alnum alnum]
      rfl
  | case3 c alnum d ds joined ih =>
    obtain ⟨parts, laid⟩ := ih (before ++ [c])
    exact laid.join alnum joined
  | case4 c alnum d ds cut ih =>
    obtain ⟨parts, laid⟩ := ih (before ++ [c])
    exact ⟨_, laid.cut alnum cut⟩
  | case5 c cs other ih =>
    obtain ⟨parts, laid⟩ := ih (before ++ [c])
    exact ⟨parts, laid.skip (by simpa using other)⟩

/-- A text has parts, and they hold the characters of its pieces. -/
theorem exists_parts (chars : List Char) :
    ∃ parts, Parts chars parts ∧ parts.map (fun part => part.map (·.1)) = pieces chars := by
  obtain ⟨parts, laid⟩ := exists_laid [] chars
  have nonempty : ∀ part ∈ parts, part ≠ [] := fun part mem => laid.ne_nil mem
  have whole : parts.flatten = kept 0 chars := laid.whole
  refine ⟨parts, ⟨nonempty, whole, fun i => ⟨?_, fun starts => ?_⟩⟩, laid.chars⟩
  · rintro ⟨part, mem, c, head⟩
    have listed : (c, i) ∈ kept 0 chars := by
      rw [← whole]
      exact List.mem_flatten.2 ⟨part, mem, List.mem_of_mem_head? head⟩
    obtain ⟨⟨-, here⟩, alnum⟩ := mem_kept_iff.1 listed
    cases parts with
    | nil => contradiction
    | cons front others =>
      rcases List.mem_cons.1 mem with rfl | mem
      · rcases laid.first part rfl (c, i) head with start | starts
        · obtain rfl : i = 0 := start
          exact .first here alnum
        · exact starts
      · exact laid.opens part mem (c, i) head
  · obtain ⟨c, here, alnum⟩ := starts.exists_char
    have listed : (c, i) ∈ parts.flatten := by
      rw [whole]
      exact mem_kept_iff.2 ⟨⟨Nat.zero_le i, here⟩, alnum⟩
    obtain ⟨part, mem, inside⟩ := List.mem_flatten.1 listed
    obtain ⟨entry, own, rfl⟩ := List.exists_cons_of_ne_nil (nonempty part mem)
    rcases List.mem_cons.1 inside with rfl | inside
    · exact ⟨_, mem, c, rfl⟩
    · exact absurd starts (laid.inner _ mem (c, i) inside)

end Pieces

/-! ## The split -/

/-- The tokens of a text: together they are its letters and numbers in lowercase, none of them is empty, and
each is what there is from a position where a word starts up to the next. -/
structure IsSplit (chars : List Char) (tokens : List String) : Prop where
  nonempty : ∀ token ∈ tokens, token ≠ ""
  joined : String.join tokens = String.ofList ((chars.filter isAlphanumeric).flatMap toLower)
  parts : ∃ parts, Parts chars parts ∧ tokens = tokensOf parts

theorem isSplit_words (identifier : String) : IsSplit identifier.toList (words identifier) := by
  obtain ⟨parts, its, chars⟩ := exists_parts identifier.toList
  have tokens : words identifier = tokensOf parts := by
    rw [words_eq, ← chars, List.map_map]
    rfl
  refine ⟨fun token mem => ?_, ?_, parts, its, tokens⟩
  · rw [words_eq] at mem
    obtain ⟨piece, found, rfl⟩ := List.mem_map.1 mem
    exact lowered_ne_empty (pieces_ne_nil found)
  · apply String.toList_inj.1
    rw [String.toList_join, String.toList_ofList, ← flatten_pieces, words_eq, List.flatMap_map,
      List.flatten_eq_flatMap, List.flatMap_assoc]
    exact List.flatMap_congr fun piece _ => by simp [lowered]

/-- **Where words start.** A scan of an identifier never reads outside of the text, and what it finds is the one
split of the text. -/
theorem words_unique (identifier : String) :
    scan? identifier = some (words identifier) ∧
      ∀ tokens, IsSplit identifier.toList tokens ↔ tokens = words identifier := by
  refine ⟨scan?_eq identifier, fun tokens => ⟨?_, ?_⟩⟩
  · rintro ⟨-, -, parts, its, rfl⟩
    obtain ⟨-, -, parts', its', same⟩ := isSplit_words identifier
    rw [same, its.unique its']
  · rintro rfl
    exact isSplit_words identifier

end CmdletForge.Naming
