import CmdletForge.Proofs.Json.Reader
import CmdletForge.Proofs.Json.SkippedLexeme
import Mathlib.Data.List.DropRight

/-!
# Values that are passed over

What can be read can be passed over, and leaves the same behind. A reader goes into a value by recursion; what
passes over it is a machine, with the containers that are open on a stack and a supply of steps. From the front
of a value the machine comes, in a number of steps that the length of the value bounds, to what is left of the
containers around it.
-/

namespace CmdletForge.Json

variable {α : Type} {cs rest : List Char}

/-! ## Values that hold no others -/

theorem exists_of_peek {c : Char} (read : peek cs = .ok (c, rest)) :
    ∃ more, rest = c :: more ∧ cs.dropWhile isSpace = c :: more := by
  cases front : cs.dropWhile isSpace with
  | nil =>
    have none : peek? cs = .ok (none, []) := by
      rw [peek?, front]
      rfl
    rw [peek, bind_ok none] at read
    contradiction
  | cons d more =>
    rw [peek_ok front] at read
    cases read
    exact ⟨more, rfl, rfl⟩

theorem length_readWord {word : List Char} (read : readWord word cs = .ok ((), rest)) :
    cs.length = word.length + rest.length := by
  induction word generalizing cs with
  | nil =>
    cases read
    simp
  | cons c word ih =>
    cases cs with
    | nil => contradiction
    | cons d cs =>
      rw [readWord] at read
      split at read
      next => rw [List.length_cons, List.length_cons, ih read, Nat.succ_add]
      next => contradiction

/-- A value that holds no others takes the machine one step. -/
theorem skipFrom_scalar {c : Char} {more : List Char} {value : Json} (front : cs.dropWhile isSpace = c :: more)
    (read : readScalar c (c :: more) = .ok (value, rest)) :
    rest.length ≤ more.length ∧
      ∀ around steps, skipFrom around (steps + 1) cs = skipRest around steps rest := by
  have passed (c : Char) : (advance : Reader Unit) (c :: more) = .ok ((), more) := rfl
  have dropped : discard (readScalar c) (c :: more) = .ok ((), rest) := by
    change (readScalar c (c :: more) >>= _) = _
    rw [read]
    rfl
  unfold readScalar at read
  split at read
  -- The words.
  case h_1 | h_2 | h_3 =>
    rw [bind_ok (passed _)] at read
    obtain ⟨_, _, word, last⟩ := exists_of_bind_ok read
    cases last
    have long := length_readWord word
    refine ⟨by omega, fun around steps => (bind_ok (peek_ok front)).trans (bind_ok dropped)⟩
  case h_4 =>
    rw [bind_ok (passed _)] at read
    obtain ⟨_, _, text, last⟩ := exists_of_bind_ok read
    cases last
    have skipped := skipText_of_readText text
    refine ⟨(length_lt_of_skipText skipped).le, fun around steps => (bind_ok (peek_ok front)).trans ?_⟩
    exact (bind_ok (passed _)).trans (bind_ok skipped)
  case h_5 =>
    rw [bind_ok (passed _)] at read
    obtain ⟨_, _, number, last⟩ := exists_of_bind_ok read
    cases last
    have skipped := skipNumber_of_readNumber number
    refine ⟨(length_lt_of_skipNumber skipped).le, fun around steps => (bind_ok (peek_ok front)).trans ?_⟩
    exact (bind_ok (passed _)).trans (bind_ok skipped)
  case h_6 notNull notTrue notFalse notQuote notMinus =>
    split at read
    next digit =>
      obtain ⟨_, _, number, last⟩ := exists_of_bind_ok read
      cases last
      have skipped := skipNumber_of_readNumber number
      refine ⟨Nat.le_of_lt_succ (length_lt_of_skipNumber skipped), fun around steps => ?_⟩
      refine (bind_ok (peek_ok front)).trans ?_
      split
      next => exact absurd digit (by decide)
      next => exact absurd digit (by decide)
      next => exact absurd digit (by decide)
      next => exact absurd digit (by decide)
      next =>
        rw [if_pos digit]
        exact bind_ok skipped
    next => contradiction

/-! ## Containers -/

theorem peek_dropWhile (cs : List Char) : peek (cs.dropWhile isSpace) = peek cs := by
  have same : peek? (cs.dropWhile isSpace) = peek? cs := by
    simp only [peek?, List.dropWhile_idempotent]
  change (peek? (cs.dropWhile isSpace) >>= fun result => _) = (peek? cs >>= fun result => _)
  rw [same]

/-- White space in front does not matter to a reader that looks at what is in front. -/
theorem peek_bind_dropWhile (next : Char → Reader α) (cs : List Char) :
    (peek >>= next) (cs.dropWhile isSpace) = (peek >>= next) cs := by
  change (peek (cs.dropWhile isSpace) >>= _) = (peek cs >>= _)
  rw [peek_dropWhile]

theorem skipFrom_dropWhile (around : List Bracket) (steps : Nat) (cs : List Char) :
    skipFrom around steps (cs.dropWhile isSpace) = skipFrom around steps cs := by
  cases steps with
  | zero => rfl
  | succ steps => exact peek_bind_dropWhile _ cs

theorem readValue_dropWhile (depth : Nat) (cs : List Char) :
    readValue depth (cs.dropWhile isSpace) = readValue depth cs := by
  cases depth with
  | zero => exact peek_bind_dropWhile _ cs
  | succ depth => exact peek_bind_dropWhile _ cs

/-- How a container tells that a part follows, and where the part starts. -/
inductive Ahead (mark : Char) : Bool → List Char → Bool → List Char → Prop where
  | close {first : Bool} {cs rest : List Char} (front : cs.dropWhile isSpace = mark :: rest) :
    Ahead mark first cs false (mark :: rest)
  | first {cs rest : List Char} {c : Char} (front : cs.dropWhile isSpace = c :: rest) (goesOn : c ≠ mark) :
    Ahead mark true cs true (c :: rest)
  | next {cs more rest : List Char} {c : Char} (front : cs.dropWhile isSpace = ',' :: more)
    (behind : more.dropWhile isSpace = c :: rest) (goesOn : c ≠ mark) : Ahead mark false cs true (c :: rest)

theorem ahead_of_moreItems {first more : Bool} (read : moreItems first cs = .ok (more, rest)) :
    Ahead ']' first cs more rest := by
  obtain ⟨c, _, looked, read⟩ := exists_of_bind_ok read
  obtain ⟨tail, rfl, front⟩ := exists_of_peek looked
  split at read
  next =>
    cases read
    exact .close front
  next notEnd =>
    split at read
    next isFirst =>
      cases read
      rw [isFirst]
      exact .first front (by decide)
    next later =>
      have passed : (advance : Reader Unit) (',' :: tail) = .ok ((), tail) := rfl
      rw [bind_ok passed] at read
      obtain ⟨d, _, looked, read⟩ := exists_of_bind_ok read
      obtain ⟨left, rfl, behind⟩ := exists_of_peek looked
      split at read
      next => contradiction
      next goesOn =>
        cases read
        rw [Bool.eq_false_of_not_eq_true later]
        exact .next front behind goesOn
  next goesOn _ =>
    split at read
    next isFirst =>
      cases read
      rw [isFirst]
      exact .first front goesOn
    next => contradiction

theorem ahead_of_moreEntries {first more : Bool} (read : moreEntries first cs = .ok (more, rest)) :
    Ahead '}' first cs more rest ∧ (more = true → rest.head? = some '"') := by
  obtain ⟨c, _, looked, read⟩ := exists_of_bind_ok read
  obtain ⟨tail, rfl, front⟩ := exists_of_peek looked
  split at read
  next =>
    cases read
    exact ⟨.close front, by simp⟩
  next =>
    split at read
    next isFirst =>
      cases read
      rw [isFirst]
      exact ⟨.first front (by decide), fun _ => rfl⟩
    next => contradiction
  next =>
    split at read
    next => contradiction
    next later =>
      have passed : (advance : Reader Unit) (',' :: tail) = .ok ((), tail) := rfl
      rw [bind_ok passed] at read
      obtain ⟨d, _, looked, read⟩ := exists_of_bind_ok read
      obtain ⟨left, rfl, behind⟩ := exists_of_peek looked
      split at read
      next =>
        cases read
        rw [Bool.eq_false_of_not_eq_true later]
        exact ⟨.next front behind (by decide), fun _ => rfl⟩
      next => contradiction
  next => contradiction

/-- From the front of a value the machine comes to what is left of the containers around it. A character takes
four steps at most. -/
def Passes (cs rest : List Char) : Prop :=
  ∃ used, used + 4 * rest.length ≤ 4 * cs.length ∧
    ∀ around steps, skipFrom around (steps + used) cs = skipRest around steps rest

theorem front_of_leave {mark : Char} (closes : leave mark cs = .ok ((), rest)) :
    cs.dropWhile isSpace = mark :: rest := by
  obtain ⟨c, _, looked, last⟩ := exists_of_bind_ok closes
  obtain ⟨tail, rfl, front⟩ := exists_of_peek looked
  split at last
  next same =>
    subst same
    cases last
    exact front
  next => contradiction

theorem length_lt_of_front {c : Char} (front : cs.dropWhile isSpace = c :: rest) : rest.length < cs.length := by
  have shorter := (List.dropWhile_sublist (l := cs) isSpace).length_le
  rw [front] at shorter
  exact shorter

/-- After a part of an array the machine comes past the end of the array. -/
theorem skipRest_items {item : Reader α} (passes : ∀ cs x rest, item cs = .ok (x, rest) → Passes cs rest)
    {n : Nat} {items : List α} {left : List Char} (read : readItems item n false cs = .ok (items, left))
    (closes : leave ']' left = .ok ((), rest)) :
    ∃ used, used + 4 * rest.length ≤ 4 * cs.length ∧
      ∀ around steps, skipRest (.array :: around) (steps + used) cs = skipRest around steps rest := by
  induction n generalizing cs items with
  | zero => contradiction
  | succ n ih =>
    rw [readItems] at read
    obtain ⟨more, _, looked, read⟩ := exists_of_bind_ok read
    cases ahead_of_moreItems looked with
    | close front =>
      cases read
      have ends := front_of_leave closes
      rw [List.dropWhile_cons_of_neg (by decide)] at ends
      obtain rfl := (List.cons.inj ends).2
      have shorter := length_lt_of_front front
      exact ⟨2, by omega, fun around steps => bind_ok (peek_ok front)⟩
    | next front behind goesOn =>
      obtain ⟨x, middle, first, read⟩ := exists_of_bind_ok read
      obtain ⟨others, _, read, last⟩ := exists_of_bind_ok read
      cases last
      obtain ⟨here, bound, step⟩ := passes _ _ _ first
      obtain ⟨there, bound', steps'⟩ := ih read
      have shorter := length_lt_of_front front
      have shorter' := length_lt_of_front behind
      refine ⟨there + here + 1, by simp only [List.length_cons] at bound; omega, fun around steps => ?_⟩
      refine (bind_ok (peek_ok front)).trans ?_
      change skipFrom (.array :: around) (steps + (there + here)) _ = _
      rw [List.tail_cons, ← skipFrom_dropWhile, behind, ← Nat.add_assoc, step, steps']

theorem skipEntry_dropWhile (around : List Bracket) (steps : Nat) (cs : List Char) :
    skipEntry around steps (cs.dropWhile isSpace) = skipEntry around steps cs := by
  cases steps with
  | zero => rfl
  | succ steps => exact peek_bind_dropWhile _ cs

/-- A key is read: the string behind its opening quote, and a colon. -/
theorem exists_of_readKey {key : String} (read : readKey cs = .ok (key, rest)) :
    ∃ text middle, readText cs.tail = .ok (text, middle) ∧ key = String.ofList text ∧
      leave ':' middle = .ok ((), rest) := by
  have passed : (advance : Reader Unit) cs = .ok ((), cs.tail) := rfl
  rw [readKey, bind_ok passed] at read
  obtain ⟨text, middle, named, colon⟩ := exists_of_bind_ok read
  obtain ⟨c, _, looked, last⟩ := exists_of_bind_ok colon
  obtain ⟨tail, rfl, front⟩ := exists_of_peek looked
  split at last
  next =>
    cases last
    exact ⟨text, middle, named, rfl, bind_ok (peek_ok front)⟩
  next => contradiction

/-- The key of an entry takes the machine one step. -/
theorem skipEntry_of_readKey {key : String} (quoted : cs.head? = some '"') (read : readKey cs = .ok (key, rest)) :
    rest.length < cs.length ∧
      ∀ around steps, skipEntry around (steps + 1) cs = skipFrom (.object :: around) steps rest := by
  obtain ⟨more, rfl⟩ := List.head?_eq_some_iff.1 quoted
  obtain ⟨text, middle, named, -, colon⟩ := exists_of_readKey read
  have passed : (advance : Reader Unit) ('"' :: more) = .ok ((), more) := rfl
  have skipped := skipText_of_readText named
  have front := front_of_leave colon
  have shorter : middle.length < more.length := length_lt_of_skipText skipped
  have shorter' := length_lt_of_front front
  refine ⟨by simp only [List.length_cons]; omega, fun around steps => ?_⟩
  refine (bind_ok (peek_ok (c := '"') rfl)).trans ?_
  exact (bind_ok passed).trans ((bind_ok skipped).trans (bind_ok (peek_ok front)))

/-- After a part of an object the machine comes past the end of the object. -/
theorem skipRest_entries {value : Reader α} (passes : ∀ cs x rest, value cs = .ok (x, rest) → Passes cs rest)
    {n : Nat} {entries : List (String × α)} {left : List Char}
    (read : readEntries value n false cs = .ok (entries, left)) (closes : leave '}' left = .ok ((), rest)) :
    ∃ used, used + 4 * rest.length ≤ 4 * cs.length ∧
      ∀ around steps, skipRest (.object :: around) (steps + used) cs = skipRest around steps rest := by
  induction n generalizing cs entries with
  | zero => contradiction
  | succ n ih =>
    rw [readEntries] at read
    obtain ⟨more, _, looked, read⟩ := exists_of_bind_ok read
    obtain ⟨ahead, quoted⟩ := ahead_of_moreEntries looked
    cases ahead with
    | close front =>
      cases read
      have ends := front_of_leave closes
      rw [List.dropWhile_cons_of_neg (by decide)] at ends
      obtain rfl := (List.cons.inj ends).2
      have shorter := length_lt_of_front front
      exact ⟨2, by omega, fun around steps => bind_ok (peek_ok front)⟩
    | next front behind goesOn =>
      obtain ⟨key, _, named, read⟩ := exists_of_bind_ok read
      obtain ⟨x, middle, first, read⟩ := exists_of_bind_ok read
      obtain ⟨others, _, read, last⟩ := exists_of_bind_ok read
      cases last
      obtain ⟨shorter, enters⟩ := skipEntry_of_readKey (quoted rfl) named
      obtain ⟨here, bound, step⟩ := passes _ _ _ first
      obtain ⟨there, bound', steps'⟩ := ih read
      have within := length_lt_of_front front
      have within' := length_lt_of_front behind
      refine ⟨there + here + 2, by simp only [List.length_cons] at shorter; omega, fun around steps => ?_⟩
      refine (bind_ok (peek_ok front)).trans ?_
      change skipEntry around (steps + (there + here) + 1) _ = _
      rw [List.tail_cons, ← skipEntry_dropWhile, behind, enters, ← Nat.add_assoc, step, steps']

theorem passes_of_readScalar {c : Char} {more : List Char} {value : Json} (front : cs.dropWhile isSpace = c :: more)
    (read : readScalar c (c :: more) = .ok (value, rest)) : Passes cs rest := by
  obtain ⟨shorter, step⟩ := skipFrom_scalar front read
  have within := length_lt_of_front front
  exact ⟨1, by omega, step⟩

/-- An array is read: its opening bracket, its items and its closing bracket. -/
theorem exists_of_readArray {depth : Nat} {item : Reader α} {items : List α} {more : List Char}
    (read : readArray (depth + 1) item ('[' :: more) = .ok (items, rest)) :
    ∃ left, readItems item (more.length + 1) true more = .ok (items, left) ∧
      leave ']' left = .ok ((), rest) := by
  have entered : enter (depth + 1) ('[' :: more) = .ok ((), more) := rfl
  have counted : stepsLeft more = .ok (more.length + 1, more) := rfl
  rw [readArray, bind_ok entered, bind_ok counted] at read
  obtain ⟨_, left, parts, last⟩ := exists_of_bind_ok read
  obtain ⟨_, _, closes, done⟩ := exists_of_bind_ok last
  cases done
  exact ⟨left, parts, closes⟩

/-- An object is read: its opening brace, its entries and its closing brace. -/
theorem exists_of_readObject {depth : Nat} {value : Reader α} {entries : List (String × α)} {more : List Char}
    (read : readObject (depth + 1) value ('{' :: more) = .ok (entries, rest)) :
    ∃ left, readEntries value (more.length + 1) true more = .ok (entries, left) ∧
      leave '}' left = .ok ((), rest) := by
  have entered : enter (depth + 1) ('{' :: more) = .ok ((), more) := rfl
  have counted : stepsLeft more = .ok (more.length + 1, more) := rfl
  rw [readObject, bind_ok entered, bind_ok counted] at read
  obtain ⟨_, left, parts, last⟩ := exists_of_bind_ok read
  obtain ⟨_, _, closes, done⟩ := exists_of_bind_ok last
  cases done
  exact ⟨left, parts, closes⟩

/-- The machine opens an array, and closes it at once if nothing is in it. -/
theorem skipFrom_array {c : Char} {more : List Char} (front : cs.dropWhile isSpace = '[' :: more)
    (behind : more.dropWhile isSpace = c :: rest) (around : List Bracket) (steps : Nat) :
    skipFrom around (steps + 1) cs =
      if c = ']' then skipAfter around steps (c :: rest) else skipFrom (.array :: around) steps (c :: rest) := by
  have passed : (advance : Reader Unit) ('[' :: more) = .ok ((), more) := rfl
  refine (bind_ok (peek_ok front)).trans ((bind_ok passed).trans ((bind_ok (peek_ok behind)).trans ?_))
  split
  next => rfl
  next other => rw [if_neg other]

/-- The machine opens an object, and closes it at once if nothing is in it. -/
theorem skipFrom_object {c : Char} {more : List Char} (front : cs.dropWhile isSpace = '{' :: more)
    (behind : more.dropWhile isSpace = c :: rest) (around : List Bracket) (steps : Nat) :
    skipFrom around (steps + 1) cs =
      if c = '}' then skipAfter around steps (c :: rest) else skipEntry around steps (c :: rest) := by
  have passed : (advance : Reader Unit) ('{' :: more) = .ok ((), more) := rfl
  refine (bind_ok (peek_ok front)).trans ((bind_ok passed).trans ((bind_ok (peek_ok behind)).trans ?_))
  split
  next => rfl
  next other => rw [if_neg other]

/-- An array takes the machine from its opening mark past its end. -/
theorem passes_of_readArray {depth : Nat} {item : Reader α} {items : List α} {more : List Char}
    (passes : ∀ cs x rest, item cs = .ok (x, rest) → Passes cs rest) (front : cs.dropWhile isSpace = '[' :: more)
    (read : readArray (depth + 1) item ('[' :: more) = .ok (items, rest)) : Passes cs rest := by
  obtain ⟨left, parts, closes⟩ := exists_of_readArray read
  rw [readItems] at parts
  obtain ⟨_, _, looked, parts⟩ := exists_of_bind_ok parts
  have shorter := length_lt_of_front front
  cases ahead_of_moreItems looked with
  | close behind =>
    cases parts
    have ends := front_of_leave closes
    rw [List.dropWhile_cons_of_neg (by decide)] at ends
    obtain rfl := (List.cons.inj ends).2
    have shorter' := length_lt_of_front behind
    refine ⟨2, by omega, fun around steps => ?_⟩
    exact (skipFrom_array front behind around (steps + 1)).trans (if_pos rfl)
  | first behind goesOn =>
    obtain ⟨x, middle, first, parts⟩ := exists_of_bind_ok parts
    obtain ⟨others, _, parts, done⟩ := exists_of_bind_ok parts
    cases done
    obtain ⟨here, bound, step⟩ := passes _ _ _ first
    obtain ⟨there, bound', steps'⟩ := skipRest_items passes parts closes
    have shorter' := length_lt_of_front behind
    refine ⟨there + here + 1, by simp only [List.length_cons] at bound; omega, fun around steps => ?_⟩
    rw [← Nat.add_assoc, skipFrom_array front behind, if_neg goesOn, ← Nat.add_assoc, step, steps']

/-- An object takes the machine from its opening mark past its end. -/
theorem passes_of_readObject {depth : Nat} {value : Reader α} {entries : List (String × α)} {more : List Char}
    (passes : ∀ cs x rest, value cs = .ok (x, rest) → Passes cs rest) (front : cs.dropWhile isSpace = '{' :: more)
    (read : readObject (depth + 1) value ('{' :: more) = .ok (entries, rest)) : Passes cs rest := by
  obtain ⟨left, parts, closes⟩ := exists_of_readObject read
  rw [readEntries] at parts
  obtain ⟨_, _, looked, parts⟩ := exists_of_bind_ok parts
  obtain ⟨ahead, quoted⟩ := ahead_of_moreEntries looked
  have shorter := length_lt_of_front front
  cases ahead with
  | close behind =>
    cases parts
    have ends := front_of_leave closes
    rw [List.dropWhile_cons_of_neg (by decide)] at ends
    obtain rfl := (List.cons.inj ends).2
    have shorter' := length_lt_of_front behind
    refine ⟨2, by omega, fun around steps => ?_⟩
    exact (skipFrom_object front behind around (steps + 1)).trans (if_pos rfl)
  | first behind goesOn =>
    obtain ⟨key, _, named, parts⟩ := exists_of_bind_ok parts
    obtain ⟨x, middle, first, parts⟩ := exists_of_bind_ok parts
    obtain ⟨others, _, parts, done⟩ := exists_of_bind_ok parts
    cases done
    obtain ⟨within, enters⟩ := skipEntry_of_readKey (quoted rfl) named
    obtain ⟨here, bound, step⟩ := passes _ _ _ first
    obtain ⟨there, bound', steps'⟩ := skipRest_entries passes parts closes
    have shorter' := length_lt_of_front behind
    refine ⟨there + here + 2, by simp only [List.length_cons] at within; omega, fun around steps => ?_⟩
    rw [← Nat.add_assoc, skipFrom_object front behind, if_neg goesOn, enters, ← Nat.add_assoc, step, steps']

/-- What is in front of a value that was read, and how the value was read from there. -/
inductive Spelled (depth : Nat) (cs : List Char) : Json → List Char → Prop where
  | scalar {c : Char} {more rest : List Char} {value : Json} (front : cs.dropWhile isSpace = c :: more)
    (notArray : c ≠ '[') (notObject : c ≠ '{') (read : readScalar c (c :: more) = .ok (value, rest)) :
    Spelled depth cs value rest
  | array {inner : Nat} {more rest : List Char} {items : List Json} (front : cs.dropWhile isSpace = '[' :: more)
    (nests : depth = inner + 1) (read : readArray depth (readValue inner) ('[' :: more) = .ok (items, rest)) :
    Spelled depth cs (.arr items) rest
  | object {inner : Nat} {more rest : List Char} {entries : List (String × Json)}
    (front : cs.dropWhile isSpace = '{' :: more) (nests : depth = inner + 1)
    (read : readObject depth (readValue inner) ('{' :: more) = .ok (entries, rest)) :
    Spelled depth cs (.obj entries) rest

theorem spelled_of_readValue {depth : Nat} {value : Json} (read : readValue depth cs = .ok (value, rest)) :
    Spelled depth cs value rest := by
  cases depth with
  | zero =>
    obtain ⟨c, _, looked, read⟩ := exists_of_bind_ok read
    obtain ⟨more, rfl, front⟩ := exists_of_peek looked
    split at read
    next => contradiction
    next => contradiction
    next notArray notObject => exact .scalar front notArray notObject read
  | succ depth =>
    obtain ⟨c, _, looked, read⟩ := exists_of_bind_ok read
    obtain ⟨more, rfl, front⟩ := exists_of_peek looked
    split at read
    next =>
      obtain ⟨items, _, read, last⟩ := exists_of_bind_ok read
      cases last
      exact .array front rfl read
    next =>
      obtain ⟨entries, _, read, last⟩ := exists_of_bind_ok read
      cases last
      exact .object front rfl read
    next notArray notObject => exact .scalar front notArray notObject read

/-- What can be read can be passed over. -/
theorem passes_of_readValue {depth : Nat} {value : Json} (read : readValue depth cs = .ok (value, rest)) :
    Passes cs rest := by
  induction depth generalizing cs rest value with
  | zero =>
    cases spelled_of_readValue read with
    | scalar front _ _ read => exact passes_of_readScalar front read
    | array _ nests | object _ nests => contradiction
  | succ depth ih =>
    cases spelled_of_readValue read with
    | scalar front _ _ read => exact passes_of_readScalar front read
    | array front nests read =>
      cases nests
      exact passes_of_readArray (fun _ _ _ => ih) front read
    | object front nests read =>
      cases nests
      exact passes_of_readObject (fun _ _ _ => ih) front read

/-- **Passing over a value.** What is left behind a value that can be read is left when it is passed over. -/
theorem skipValue_of_readValue {depth : Nat} {value : Json} (read : readValue depth cs = .ok (value, rest)) :
    skipValue cs = .ok ((), rest) := by
  obtain ⟨used, bound, step⟩ := passes_of_readValue read
  obtain ⟨steps, enough⟩ := Nat.exists_eq_add_of_le (show used + 1 ≤ 4 * cs.length + 8 by omega)
  have whole : 4 * cs.length + 8 = steps + 1 + used := by omega
  rw [skipValue, whole, step]
  rfl

end CmdletForge.Json
