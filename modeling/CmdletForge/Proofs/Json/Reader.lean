import CmdletForge.Json.Reader
import CmdletForge.Proofs.Json.Lexeme

/-!
# Printed values read back

The reader undoes the printer: from the text of a value, whatever follows, it takes the value and leaves
what follows. Integers must fit 64 bits and values must not nest too deep; a double may read back as one
that is near.
-/

namespace CmdletForge.Json

/-! ## Containers -/

section Containers

variable {α : Type} {more : Bool → Reader Bool} {part : Reader α} {mark : Char}

/-- The parts of a container up to its end. -/
def readParts (more : Bool → Reader Bool) (part : Reader α) :
    (steps : Nat) → (first : Bool) → Reader (List α)
  | 0, _ => throw .truncated
  | steps + 1, first => do
    if ← more first then
      let x ← part
      let rest ← readParts more part steps false
      pure (x :: rest)
    else pure []

theorem readItems_eq (item : Reader α) (steps : Nat) (first : Bool) :
    readItems item steps first = readParts moreItems item steps first := by
  induction steps generalizing first with
  | zero => rfl
  | succ steps ih => simp only [readItems, readParts, ih]

theorem readEntries_eq (value : Reader α) (steps : Nat) (first : Bool) :
    readEntries value steps first =
      readParts moreEntries (readKey >>= fun key => value >>= fun x => pure (key, x)) steps first := by
  induction steps generalizing first with
  | zero => rfl
  | succ steps ih => simp only [readEntries, readParts, ih, bind_assoc, pure_bind]

/-- How a container tells that a part follows: there is one unless its closing mark is next. -/
structure Separates (more : Bool → Reader Bool) (mark : Char) (opens : Char → Prop) : Prop where
  close : ∀ first cs rest, cs.dropWhile isSpace = mark :: rest → more first cs = .ok (false, mark :: rest)
  first : ∀ c cs rest, opens c → cs.dropWhile isSpace = c :: rest → more true cs = .ok (true, c :: rest)
  next : ∀ c cs rest, opens c → cs.dropWhile isSpace = c :: rest →
    more false (',' :: cs) = .ok (true, c :: rest)

theorem separates_items : Separates moreItems ']' fun c => c ≠ ']' ∧ c ≠ ',' := by
  refine ⟨?_, ?_, ?_⟩
  · intro first cs rest front
    exact bind_ok (peek_ok front)
  · rintro c cs rest ⟨notEnd, notComma⟩ front
    refine (bind_ok (peek_ok front)).trans ?_
    split
    · contradiction
    · contradiction
    · rfl
  · rintro c cs rest ⟨notEnd, -⟩ front
    refine (bind_ok (peek_ok (c := ',') rfl)).trans ?_
    have passed : (advance : Reader Unit) (',' :: cs) = .ok ((), cs) := rfl
    refine (bind_ok passed).trans ((bind_ok (peek_ok front)).trans ?_)
    split
    · contradiction
    · rfl

theorem separates_entries : Separates moreEntries '}' (· = '"') := by
  refine ⟨?_, ?_, ?_⟩
  · intro first cs rest front
    exact bind_ok (peek_ok front)
  · rintro _ cs rest rfl front
    exact bind_ok (peek_ok front)
  · rintro _ cs rest rfl front
    refine (bind_ok (peek_ok (c := ',') rfl)).trans ?_
    have passed : (advance : Reader Unit) (',' :: cs) = .ok ((), cs) := rfl
    exact (bind_ok passed).trans (bind_ok (peek_ok front))

/-- The text starts with a character that opens a part. -/
def StartsWith (opens : Char → Prop) (text : List Char) : Prop :=
  ∃ c rest, text = c :: rest ∧ isSpace c = false ∧ opens c

theorem dropWhile_newline (indent : Nat) (cs : List Char) :
    (newline indent ++ cs).dropWhile isSpace = cs.dropWhile isSpace := by
  rw [List.dropWhile_append_of_pos]
  intro c mem
  rcases List.mem_cons.1 mem with rfl | mem
  · rfl
  · rw [List.eq_of_mem_replicate mem]
    rfl

theorem StartsWith.dropWhile {opens : Char → Prop} {text : List Char} (starts : StartsWith opens text)
    (cs : List Char) : ∃ c rest, opens c ∧ text ++ cs = c :: rest ∧
      (text ++ cs).dropWhile isSpace = c :: rest := by
  obtain ⟨c, rest, rfl, solid, its⟩ := starts
  exact ⟨c, rest ++ cs, its, rfl, List.dropWhile_cons_of_neg (by simp [solid])⟩

theorem ended_trail (indent outer : Nat) (texts : List (List Char)) (mark : Char) (rest : List Char) :
    Ended (trail indent texts ++ (newline outer ++ mark :: rest)) := by
  cases texts with
  | nil => exact .line _
  | cons text rest => exact .comma _

variable {opens : Char → Prop} (separates : Separates more mark opens) (solid : isSpace mark = false)
  {text : α → List Char} {parts : List α} (starts : ∀ x ∈ parts, StartsWith opens (text x))
  (takes : ∀ x ∈ parts, Takes part (text x) x)

include separates solid starts takes

/-- The parts after the first. -/
theorem readParts_trail (indent outer : Nat) (rest : List Char) {steps : Nat}
    (enough : parts.length < steps) :
    readParts more part steps false
        (trail indent (parts.map text) ++ (newline outer ++ mark :: rest)) =
      .ok (parts, mark :: rest) := by
  obtain ⟨steps, rfl⟩ := Nat.exists_eq_succ_of_ne_zero (Nat.ne_of_gt (Nat.zero_lt_of_lt enough))
  induction parts generalizing steps with
  | nil =>
    have front : (newline outer ++ mark :: rest).dropWhile isSpace = mark :: rest := by
      rw [dropWhile_newline, List.dropWhile_cons_of_neg (by simp [solid])]
    exact bind_ok (separates.close false _ rest front)
  | cons x parts ih =>
    obtain ⟨own, others⟩ := List.forall_mem_cons.1 starts
    obtain ⟨its, takes⟩ := List.forall_mem_cons.1 takes
    have left : parts.length < steps := Nat.lt_of_succ_lt_succ enough
    -- The end of the container takes a step too, so there is one after each part.
    obtain ⟨fuel, rfl⟩ := Nat.exists_eq_succ_of_ne_zero (Nat.ne_of_gt (Nat.zero_lt_of_lt left))
    have remaining := ih others takes fuel left
    obtain ⟨c, cs, opens, whole, front⟩ :=
      own.dropWhile (trail indent (parts.map text) ++ (newline outer ++ mark :: rest))
    rw [← dropWhile_newline indent] at front
    rw [List.map_cons, trail_cons, List.cons_append, List.append_assoc, List.append_assoc]
    refine (bind_ok (separates.next c _ cs opens front)).trans ?_
    rw [← whole]
    exact (bind_ok (its _ (ended_trail indent outer _ mark rest))).trans (bind_ok remaining)

/-- The parts of a container are read from its block. -/
theorem readParts_block (indent : Nat) (rest : List Char) {steps : Nat} (enough : parts.length < steps) :
    readParts more part steps true (block indent (parts.map text) ++ mark :: rest) =
      .ok (parts, mark :: rest) := by
  obtain ⟨steps, rfl⟩ := Nat.exists_eq_succ_of_ne_zero (Nat.ne_of_gt (Nat.zero_lt_of_lt enough))
  cases parts with
  | nil =>
    have front : (mark :: rest).dropWhile isSpace = mark :: rest :=
      List.dropWhile_cons_of_neg (by simp [solid])
    exact bind_ok (separates.close true _ rest front)
  | cons x parts =>
    obtain ⟨own, others⟩ := List.forall_mem_cons.1 starts
    obtain ⟨its, takes⟩ := List.forall_mem_cons.1 takes
    have remaining := readParts_trail separates solid others takes (indent + 1) indent rest
      (Nat.lt_of_succ_lt_succ enough)
    obtain ⟨c, cs, opens, whole, front⟩ :=
      own.dropWhile (trail (indent + 1) (parts.map text) ++ (newline indent ++ mark :: rest))
    rw [← dropWhile_newline (indent + 1)] at front
    rw [List.map_cons, block_cons, List.append_assoc, List.append_assoc, List.append_assoc]
    refine (bind_ok (separates.first c _ cs opens front)).trans ?_
    rw [← whole]
    exact (bind_ok (its _ (ended_trail (indent + 1) indent _ mark rest))).trans (bind_ok remaining)

/-- A container is read: its opening mark, its parts and its closing mark. -/
theorem read_container (indent depth : Nat) (opening : Char) (rest : List Char) :
    (enter (depth + 1) >>= fun _ => stepsLeft >>= fun steps =>
        readParts more part steps true >>= fun found => leave mark >>= fun _ => pure found)
      (opening :: (block indent (parts.map text) ++ mark :: rest)) = .ok (parts, rest) := by
  generalize inside : block indent (parts.map text) ++ mark :: rest = cs
  have entered : enter (depth + 1) (opening :: cs) = .ok ((), cs) := rfl
  have counted : stepsLeft cs = .ok (cs.length + 1, cs) := rfl
  have enough : parts.length < cs.length + 1 := by
    have blocked := length_le_block indent (parts.map text)
    rw [List.length_map] at blocked
    rw [← inside, List.length_append]
    omega
  have read : readParts more part (cs.length + 1) true cs = .ok (parts, mark :: rest) := by
    rw [← inside]
    exact readParts_block separates solid starts takes indent rest (inside ▸ enough)
  have left : leave mark (mark :: rest) = .ok ((), rest) := by
    have front : (mark :: rest).dropWhile isSpace = mark :: rest :=
      List.dropWhile_cons_of_neg (by simp [solid])
    refine (bind_ok (peek_ok front)).trans ?_
    rw [if_pos rfl]
    rfl
  exact (bind_ok entered).trans ((bind_ok counted).trans ((bind_ok read).trans (bind_ok left)))

omit separates solid starts takes

theorem takes_array {item : Reader α} {items : List α} (indent depth : Nat)
    (starts : ∀ x ∈ items, StartsWith (fun c => c ≠ ']' ∧ c ≠ ',') (text x))
    (takes : ∀ x ∈ items, Takes item (text x) x) :
    Takes (readArray (depth + 1) item) ('[' :: (block indent (items.map text) ++ [']'])) items := by
  intro rest _
  rw [List.cons_append, List.append_assoc, List.singleton_append]
  simp only [readArray, readItems_eq]
  exact read_container separates_items rfl starts takes indent depth '[' rest

theorem takes_object {value : Reader α} {entries : List (String × α)} (indent depth : Nat)
    {text : String × α → List Char} (starts : ∀ x ∈ entries, StartsWith (· = '"') (text x))
    (takes : ∀ x ∈ entries,
      Takes (readKey >>= fun key => value >>= fun x => pure (key, x)) (text x) x) :
    Takes (readObject (depth + 1) value) ('{' :: (block indent (entries.map text) ++ ['}']))
      entries := by
  intro rest _
  rw [List.cons_append, List.append_assoc, List.singleton_append]
  simp only [readObject, readEntries_eq]
  exact read_container separates_entries rfl starts takes indent depth '{' rest

end Containers

/-! ## Values -/

/-- A value that reads back: its numbers are integers that fit, and it does not nest deeper. -/
inductive Readable : Nat → Json → Prop where
  | null {depth : Nat} : Readable depth .null
  | bool {depth : Nat} (b : Bool) : Readable depth (.bool b)
  | num {depth : Nat} {n : Number} (fits : n.Fits) : Readable depth (.num n)
  | str {depth : Nat} (s : String) : Readable depth (.str s)
  | arr {depth : Nat} {items : List Json} (its : ∀ item ∈ items, Readable depth item) :
    Readable (depth + 1) (.arr items)
  | obj {depth : Nat} {entries : List (String × Json)}
    (its : ∀ entry ∈ entries, Readable depth entry.2) : Readable (depth + 1) (.obj entries)

section Values

variable {depth : Nat} {cs rest : List Char} {c : Char}

theorem readValue_scalar (front : cs.dropWhile isSpace = c :: rest) (notArray : c ≠ '[')
    (notObject : c ≠ '{') : readValue depth cs = readScalar c (c :: rest) := by
  cases depth with
  | zero =>
    refine (bind_ok (peek_ok front)).trans ?_
    split
    · contradiction
    · contradiction
    · rfl
  | succ depth =>
    refine (bind_ok (peek_ok front)).trans ?_
    split
    · contradiction
    · contradiction
    · rfl

theorem readScalar_digit (digit : c.isDigit = true) :
    readScalar c = readNumber false >>= fun n => pure (.num n) := by
  unfold readScalar
  split
  case h_6 => exact if_pos digit
  all_goals exact absurd digit (by decide)

theorem takes_number {n : Number} (fits : n.Fits) :
    Takes (readValue depth) (numberText n).toList (.num n) := by
  intro rest ended
  rcases numberText_cases fits with ⟨m, low, rfl, text⟩ | ⟨m, pos, low, rfl, text⟩
  · obtain ⟨c, more, digits, digit⟩ := exists_digit m
    have front : (Nat.toDigits 10 m ++ rest).dropWhile isSpace = c :: (more ++ rest) := by
      rw [digits]
      exact List.dropWhile_cons_of_neg (by simp [isSpace_of_isDigit digit])
    have read : readNumber false (c :: (more ++ rest)) = .ok (.int m, rest) := by
      rw [← List.cons_append, ← digits, readNumber_digits low ended, readNumber_after ended]
      rfl
    rw [text, readValue_scalar front (ne_of_isDigit digit (by decide))
      (ne_of_isDigit digit (by decide)), readScalar_digit digit]
    exact bind_ok read
  · have front : ('-' :: (Nat.toDigits 10 m ++ rest)).dropWhile isSpace =
        '-' :: (Nat.toDigits 10 m ++ rest) := rfl
    have passed : (advance : Reader Unit) ('-' :: (Nat.toDigits 10 m ++ rest)) =
        .ok ((), Nat.toDigits 10 m ++ rest) := rfl
    have read : readNumber true (Nat.toDigits 10 m ++ rest) = .ok (.int (-m), rest) := by
      have small : m < Nat.pow 2 64 := Nat.lt_of_le_of_lt low (by decide)
      rw [readNumber_digits small ended, readNumber_after ended, if_neg (by simp), if_neg]
      exact fun wrong => wrong.elim (Nat.ne_of_gt pos) (Nat.not_lt.2 low)
    rw [text, List.cons_append, readValue_scalar front (by decide) (by decide)]
    exact (bind_ok passed).trans (bind_ok read)

theorem takes_quoted (s : String) : Takes (readValue depth) (quoted s) (.str s) := by
  intro rest ended
  rw [quoted_eq, List.cons_append, List.append_assoc, List.singleton_append]
  have passed : (advance : Reader Unit) ('"' :: (escape s.toList ++ '"' :: rest)) =
      .ok ((), escape s.toList ++ '"' :: rest) := rfl
  rw [readValue_scalar rfl (by decide) (by decide)]
  refine (bind_ok passed).trans ((bind_ok (readText_escape s.toList rest)).trans ?_)
  rw [String.ofList_toList]
  rfl

/-- The text of a readable value starts with a character that no list takes for a comma or its end. -/
theorem startsWith_pretty {value : Json} (readable : Readable depth value) (indent : Nat) :
    StartsWith (fun c => c ≠ ']' ∧ c ≠ ',') (prettyChars indent value) := by
  cases readable with
  | null => exact ⟨'n', _, rfl, rfl, by decide⟩
  | bool b => cases b <;> exact ⟨_, _, rfl, rfl, by decide⟩
  | num fits =>
    rcases numberText_cases fits with ⟨m, -, rfl, text⟩ | ⟨m, -, -, rfl, text⟩
    · obtain ⟨c, more, digits, digit⟩ := exists_digit m
      exact ⟨c, more, text.trans digits, isSpace_of_isDigit digit, ne_of_isDigit digit (by decide),
        ne_of_isDigit digit (by decide)⟩
    · exact ⟨'-', _, text, rfl, by decide⟩
  | str s => exact ⟨'"', _, rfl, rfl, by decide⟩
  | arr its => exact ⟨'[', _, prettyChars_arr .., rfl, by decide⟩
  | obj its => exact ⟨'{', _, prettyChars_obj .., rfl, by decide⟩

theorem readKey_quoted (key : String) (cs : List Char) :
    readKey (quoted key ++ ':' :: cs) = .ok (key, cs) := by
  rw [quoted_eq, List.cons_append, List.append_assoc, List.singleton_append]
  have passed : (advance : Reader Unit) ('"' :: (escape key.toList ++ '"' :: ':' :: cs)) =
      .ok ((), escape key.toList ++ '"' :: ':' :: cs) := rfl
  refine (bind_ok passed).trans ((bind_ok (readText_escape _ _)).trans ?_)
  refine (bind_ok (peek_ok (c := ':') rfl)).trans ?_
  rw [String.ofList_toList]
  rfl

theorem readValue_space (cs : List Char) : readValue depth (' ' :: cs) = readValue depth cs := by
  cases depth <;> rfl

/-- An entry is read if its value is. -/
theorem takes_entry {entry : String × Json} {indent : Nat}
    (takes : Takes (readValue depth) (prettyChars indent entry.2) entry.2) :
    Takes (readKey >>= fun key => readValue depth >>= fun x => pure (key, x)) (entryText indent entry)
      entry := by
  intro rest ended
  rw [entryText, List.append_assoc]
  refine (bind_ok (readKey_quoted _ _)).trans (bind_ok ?_)
  exact (readValue_space _).trans (takes rest ended)

/-- An object fails to be read as the value of its first entry does. -/
theorem readValue_object_error {e : ReadError} (indent : Nat) (key : String)
    (failed : readValue depth cs = .error e) :
    readValue (depth + 1) ('{' :: (newline indent ++ (quoted key ++ ':' :: ' ' :: cs))) = .error e := by
  generalize inside : newline indent ++ (quoted key ++ ':' :: ' ' :: cs) = text
  have entered : enter (depth + 1) ('{' :: text) = .ok ((), text) := rfl
  have counted : stepsLeft text = .ok (text.length + 1, text) := rfl
  have front : text.dropWhile isSpace = quoted key ++ ':' :: ' ' :: cs := by
    rw [← inside, dropWhile_newline]
    rfl
  have entry : readEntries (readValue depth) (text.length + 1) true text = .error e := by
    rw [readEntries_eq]
    refine (bind_ok (separates_entries.first '"' _ _ rfl front)).trans (bind_error ?_)
    refine (bind_ok (readKey_quoted key (' ' :: cs))).trans (bind_error ?_)
    exact (readValue_space _).trans failed
  refine (bind_ok (peek_ok (c := '{') rfl)).trans (bind_error ?_)
  exact (bind_ok entered).trans ((bind_ok counted).trans (bind_error entry))

/-- **Printed values read back.** -/
theorem takes_pretty {value : Json} (readable : Readable depth value) (indent : Nat) :
    Takes (readValue depth) (prettyChars indent value) value := by
  induction readable generalizing indent with
  | null =>
    intro rest ended
    exact (readValue_scalar (c := 'n') rfl (by decide) (by decide)).trans rfl
  | bool b =>
    intro rest ended
    cases b with
    | true => exact (readValue_scalar (c := 't') rfl (by decide) (by decide)).trans rfl
    | false => exact (readValue_scalar (c := 'f') rfl (by decide) (by decide)).trans rfl
  | num fits => exact takes_number fits
  | str s => exact takes_quoted s
  | @arr depth items its ih =>
    intro rest ended
    have array := takes_array indent depth
      (fun item mem => startsWith_pretty (its item mem) (indent + 1))
      (fun item mem => ih item mem (indent + 1)) rest ended
    rw [prettyChars_arr]
    exact (bind_ok (peek_ok (c := '[') rfl)).trans (bind_ok array)
  | @obj depth entries its ih =>
    intro rest ended
    have starts : ∀ entry ∈ entries, StartsWith (· = '"') (entryText (indent + 1) entry) :=
      fun entry _ => ⟨'"', _, rfl, rfl, rfl⟩
    have object := takes_object indent depth starts
      (fun entry mem => takes_entry (ih entry mem (indent + 1))) rest ended
    rw [prettyChars_obj]
    exact (bind_ok (peek_ok (c := '{') rfl)).trans (bind_ok object)

end Values

/-- The value that a text spells, the entries of its objects in the order of the text. -/
def decode (text : String) : Except ReadError Json := readWhole (readValue maxDepth) text

theorem decode_pretty {value : Json} (readable : Readable maxDepth value) :
    decode value.pretty = .ok value := by
  have read := takes_pretty readable 0 [] .done
  rw [List.append_nil] at read
  rw [decode, readWhole, pretty, String.toList_ofList, read]
  rfl

end CmdletForge.Json
