import CmdletForge.Proofs.Data.Matching
import CmdletForge.Proofs.Data.Whole
import CmdletForge.Proofs.Json.Skipping

/-!
# Typed data from a stream

Typed data that is taken from a text as it is read, from left to right, is what would be taken from the value
that the text spells, and so is the complaint if it is refused. So what a description means depends on the value
that it is only, not on how the value is spelled.
-/

namespace CmdletForge

/-! ## Values that come from JSON -/

namespace Value

theorem ofJson_arr (items : List Json) : ofJson (.arr items) = .seq (items.map ofJson) := by
  rw [ofJson]
  congr
  induction items with
  | nil => rfl
  | cons item rest ih => rw [ofJsonItems, ih, List.map_cons]

theorem ofJson_obj (entries : List (String × Json)) :
    ofJson (.obj entries) = .map (entries.map fun entry => (.str entry.1, ofJson entry.2)) := by
  rw [ofJson]
  congr
  induction entries with
  | nil => rfl
  | cons entry rest ih => rw [ofJsonEntries, ih, List.map_cons]

theorem depth_lt_arr {item : Json} {items : List Json} (mem : item ∈ items) :
    (ofJson item).depth < (ofJson (.arr items)).depth := by
  rw [ofJson_arr]
  exact Whole.depth_lt_seq (List.mem_map_of_mem mem)

theorem depth_lt_obj {entry : String × Json} {entries : List (String × Json)} (mem : entry ∈ entries) :
    (ofJson entry.2).depth < (ofJson (.obj entries)).depth := by
  rw [ofJson_obj]
  have mapped := List.mem_map_of_mem (f := fun entry => (str entry.1, ofJson entry.2)) mem
  exact Whole.depth_lt_map mapped

theorem isNull_ofJson {value : Json} : (ofJson value).isNull = true ↔ value = .null := by
  cases value with
  | num n => cases n <;> simp [ofJson, ofNumber, isNull, untagged]
  | _ => simp [ofJson, isNull, untagged]

mutual

/-- The JSON value that an untyped value comes from. -/
def toJson? : Value → Option Json
  | .null => some .null
  | .bool b => some (.bool b)
  | .int n => some (.num (.int n))
  | .float x => some (.num (.float x))
  | .str s => some (.str s)
  | .seq items => (toJsonItems? items).map .arr
  | .map entries => (toJsonEntries? entries).map .obj
  | _ => none

/-- The JSON values that items come from. -/
def toJsonItems? : List Value → Option (List Json)
  | [] => some []
  | item :: rest => do some ((← toJson? item) :: (← toJsonItems? rest))

/-- The entries of a JSON object that entries come from. -/
def toJsonEntries? : List (Value × Value) → Option (List (String × Json))
  | [] => some []
  | (.str key, value) :: rest => do some ((key, ← toJson? value) :: (← toJsonEntries? rest))
  | _ => none

end

theorem toJson?_ofJson (value : Json) : toJson? (ofJson value) = some value := by
  induction value using Json.induction with
  | null | bool | str => rfl
  | num n => cases n <;> rfl
  | arr items ih =>
    have all : toJsonItems? (items.map ofJson) = some items := by
      induction items with
      | nil => rfl
      | cons item rest inner =>
        obtain ⟨first, later⟩ := List.forall_mem_cons.1 ih
        rw [List.map_cons, toJsonItems?, first, inner later]
        rfl
    rw [ofJson_arr, toJson?, all]
    rfl
  | obj entries ih =>
    have all : toJsonEntries? (entries.map fun entry => (.str entry.1, ofJson entry.2)) = some entries := by
      induction entries with
      | nil => rfl
      | cons entry rest inner =>
        obtain ⟨first, later⟩ := List.forall_mem_cons.1 ih
        rw [List.map_cons, toJsonEntries?, first, inner later]
        rfl
    rw [ofJson_obj, toJson?, all]
    rfl

end Value

namespace Json

variable {α β σ : Type} {depth : Nat} {cs rest : List Char} {value : Json}

/-- What a reader takes from the front of a text, and how it complains, is known by the value in front. -/
def Follows (depth : Nat) (reader : Reader α) (whole : Whole (Except ReadError) α) : Prop :=
  ∀ cs value rest, readValue depth cs = .ok (value, rest) →
    reader cs = (whole (Value.ofJson value)).map fun x => (x, rest)

/-! ## Scalars -/

/-- A value that holds no others, and the character in front of it. -/
inductive Scalar (more rest : List Char) : Char → Json → Prop where
  | null (word : readWord "ull".toList more = .ok ((), rest)) : Scalar more rest 'n' .null
  | true (word : readWord "rue".toList more = .ok ((), rest)) : Scalar more rest 't' (.bool true)
  | false (word : readWord "alse".toList more = .ok ((), rest)) : Scalar more rest 'f' (.bool false)
  | text {text : List Char} (read : readText more = .ok (text, rest)) : Scalar more rest '"' (.str (.ofList text))
  | number {c : Char} {n : Number} (notNull : c ≠ 'n') (notTrue : c ≠ 't') (notFalse : c ≠ 'f') (notQuote : c ≠ '"') :
    Scalar more rest c (.num n)

theorem scalar_of_readScalar {c : Char} {more : List Char} (read : readScalar c (c :: more) = .ok (value, rest)) :
    Scalar more rest c value := by
  have passed (c : Char) : (advance : Reader Unit) (c :: more) = .ok ((), more) := rfl
  unfold readScalar at read
  split at read
  case h_1 =>
    rw [bind_ok (passed _)] at read
    obtain ⟨_, _, word, last⟩ := exists_of_bind_ok read
    cases last
    exact .null word
  case h_2 =>
    rw [bind_ok (passed _)] at read
    obtain ⟨_, _, word, last⟩ := exists_of_bind_ok read
    cases last
    exact .true word
  case h_3 =>
    rw [bind_ok (passed _)] at read
    obtain ⟨_, _, word, last⟩ := exists_of_bind_ok read
    cases last
    exact .false word
  case h_4 =>
    rw [bind_ok (passed _)] at read
    obtain ⟨_, _, text, last⟩ := exists_of_bind_ok read
    cases last
    exact .text text
  case h_5 =>
    rw [bind_ok (passed _)] at read
    obtain ⟨_, _, _, last⟩ := exists_of_bind_ok read
    cases last
    exact .number (by decide) (by decide) (by decide) (by decide)
  case h_6 notNull notTrue notFalse notQuote notMinus =>
    split at read
    next =>
      obtain ⟨_, _, _, last⟩ := exists_of_bind_ok read
      cases last
      exact .number notNull notTrue notFalse notQuote
    next => contradiction

/-- A value that is refused is named by its kind. -/
theorem unexpected_of_readValue (read : readValue depth cs = .ok (value, rest)) (expected : String) :
    (unexpected expected : Reader α) cs =
      .error (.mismatch (.invalidType (.ofValue (Value.ofJson value)) expected)) := by
  have kind : ∃ left, kindAhead cs = .ok (.ofValue (Value.ofJson value), left) := by
    cases spelled_of_readValue read with
    | scalar front notArray notObject read =>
      refine ⟨rest, (bind_ok (peek_ok front)).trans ?_⟩
      split
      · contradiction
      · contradiction
      · exact bind_ok read
    | array front => exact ⟨_, bind_ok (peek_ok front)⟩
    | object front => exact ⟨_, bind_ok (peek_ok front)⟩
  obtain ⟨left, kind⟩ := kind
  exact bind_ok kind

/-- So it is when the character in front has been looked at. -/
theorem unexpected_of_front {c : Char} {more : List Char} (read : readValue depth cs = .ok (value, rest))
    (front : cs.dropWhile isSpace = c :: more) (expected : String) :
    (unexpected expected : Reader α) (c :: more) =
      .error (.mismatch (.invalidType (.ofValue (Value.ofJson value)) expected)) := by
  rw [← front]
  exact unexpected_of_readValue ((readValue_dropWhile depth cs).trans read) expected

theorem follows_text (expected : String) : Follows depth (textReader expected) (Whole.text expected) := by
  intro cs value rest read
  have refused {c : Char} {more : List Char} (front : cs.dropWhile isSpace = c :: more) (other : c ≠ '"') :
      textReader expected cs = .error (.mismatch (.invalidType (.ofValue (Value.ofJson value)) expected)) := by
    refine (bind_ok (peek_ok front)).trans ?_
    split
    · contradiction
    · exact unexpected_of_front read front expected
  cases spelled_of_readValue read with
  | scalar front notArray notObject scalar =>
    cases scalar_of_readScalar scalar with
    | text text =>
      have passed (more : List Char) : (advance : Reader Unit) ('"' :: more) = .ok ((), more) := rfl
      exact (bind_ok (peek_ok front)).trans ((bind_ok (passed _)).trans (bind_ok text))
    | @number _ n notNull notTrue notFalse notQuote => cases n <;> exact refused front notQuote
    | _ => exact refused front (by decide)
  | array front | object front => exact refused front (by decide)

theorem follows_flag : Follows depth flagReader Whole.flag := by
  intro cs value rest read
  have refused {c : Char} {more : List Char} (front : cs.dropWhile isSpace = c :: more) (notTrue : c ≠ 't')
      (notFalse : c ≠ 'f') :
      flagReader cs = .error (.mismatch (.invalidType (.ofValue (Value.ofJson value)) "a boolean")) := by
    refine (bind_ok (peek_ok front)).trans ?_
    split
    · contradiction
    · contradiction
    · exact unexpected_of_front read front "a boolean"
  cases spelled_of_readValue read with
  | scalar front notArray notObject scalar =>
    have passed (c : Char) (more : List Char) : (advance : Reader Unit) (c :: more) = .ok ((), more) := rfl
    cases scalar_of_readScalar scalar with
    | true word | false word => exact (bind_ok (peek_ok front)).trans ((bind_ok (passed _ _)).trans (bind_ok word))
    | @number _ n notNull notTrue notFalse notQuote => cases n <;> exact refused front notTrue notFalse
    | _ => exact refused front (by decide) (by decide)
  | array front | object front => exact refused front (by decide) (by decide)

theorem follows_unit : Follows depth unitReader Whole.unit := by
  intro cs value rest read
  have refused {c : Char} {more : List Char} (front : cs.dropWhile isSpace = c :: more) (notNull : c ≠ 'n') :
      unitReader cs = .error (.mismatch (.invalidType (.ofValue (Value.ofJson value)) "unit")) := by
    refine (bind_ok (peek_ok front)).trans ?_
    split
    · contradiction
    · exact unexpected_of_front read front "unit"
  cases spelled_of_readValue read with
  | scalar front notArray notObject scalar =>
    cases scalar_of_readScalar scalar with
    | null word =>
      have passed (more : List Char) : (advance : Reader Unit) ('n' :: more) = .ok ((), more) := rfl
      exact (bind_ok (peek_ok front)).trans ((bind_ok (passed _)).trans word)
    | @number _ n notNull notTrue notFalse notQuote => cases n <;> exact refused front notNull
    | _ => exact refused front (by decide)
  | array front | object front => exact refused front (by decide)

/-- Two readers in sequence follow as each of them does. -/
theorem bind_eq_of_eq {reader : Reader α} {result : Except ReadError α} {next : α → Reader β}
    {next' : α → Except ReadError β} {middle : List Char} (taken : reader cs = result.map fun x => (x, middle))
    (later : ∀ x, next x middle = (next' x).map fun y => (y, rest)) :
    (reader >>= next) cs = (result >>= next').map fun y => (y, rest) := by
  cases result with
  | error e => exact bind_error taken
  | ok x => exact (bind_ok taken).trans (later x)

/-- A reader whose result is put into another follows as it does. -/
theorem map_eq_of_eq {reader : Reader α} {result : Except ReadError α}
    (taken : reader cs = result.map fun x => (x, rest)) (g : α → β) :
    (reader >>= fun x => pure (g x)) cs = (result >>= fun x => pure (g x)).map fun y => (y, rest) :=
  bind_eq_of_eq taken fun _ => rfl

theorem follows_map {reader : Reader α} {whole : Whole (Except ReadError) α}
    (follows : Follows depth reader whole) (g : α → β) :
    Follows depth (reader >>= fun x => pure (g x)) (whole >>= fun x => pure (g x)) :=
  fun cs value rest read => map_eq_of_eq (follows cs value rest read) g

theorem follows_optional {reader : Reader α} {whole : Whole (Except ReadError) α}
    (follows : Follows depth reader whole) : Follows depth (optionalReader reader) (Whole.optional whole) := by
  intro cs value rest read
  have looked {c : Char} {more : List Char} (front : cs.dropWhile isSpace = c :: more) :
      peek? cs = .ok (some c, c :: more) := by
    rw [peek?, front]
    rfl
  have there {c : Char} {more : List Char} (front : cs.dropWhile isSpace = c :: more) (notNull : c ≠ 'n')
      (something : value ≠ .null) :
      optionalReader reader cs = (Whole.optional whole (Value.ofJson value)).map fun x => (x, rest) := by
    have taken := follows (c :: more) value rest (by rw [← front, readValue_dropWhile, read])
    rw [Whole.optional, if_neg (by rwa [Value.isNull_ofJson])]
    refine (bind_ok (looked front)).trans ?_
    generalize here : some c = found
    split
    next => exact absurd (Option.some.inj here) notNull
    next =>
      rw [map_eq_pure_bind, map_eq_pure_bind]
      exact map_eq_of_eq taken some
  cases spelled_of_readValue read with
  | scalar front notArray notObject scalar =>
    cases scalar_of_readScalar scalar with
    | null word =>
      have passed (more : List Char) : (advance : Reader Unit) ('n' :: more) = .ok ((), more) := rfl
      exact (bind_ok (looked front)).trans ((bind_ok (passed _)).trans (bind_ok word))
    | number notNull => exact there front notNull (by simp)
    | _ => exact there front (by decide) (by simp)
  | array front | object front => exact there front (by decide) (by simp)

theorem follows_untyped : Follows depth (Value.ofJson <$> readValue depth) pure := by
  intro cs value rest read
  rw [map_eq_pure_bind]
  exact bind_ok read

/-! ## Containers -/

/-- The parts of a container are read as its values are. -/
theorem readParts_follow {more : Bool → Reader Bool} {part : Reader α} {plain : Reader β}
    {whole : β → Except ReadError α} (follows : ∀ cs y rest, plain cs = .ok (y, rest) →
      part cs = (whole y).map fun x => (x, rest)) {steps : Nat} {first : Bool} {parts : List β}
    (read : readParts more plain steps first cs = .ok (parts, rest)) :
    readParts more part steps first cs = (parts.mapM whole).map fun xs => (xs, rest) := by
  induction steps generalizing cs first parts with
  | zero => contradiction
  | succ steps ih =>
    rw [readParts] at read ⊢
    obtain ⟨another, middle, looked, read⟩ := exists_of_bind_ok read
    rw [bind_ok looked]
    cases another with
    | false =>
      cases read
      rfl
    | true =>
      obtain ⟨y, left, here, read⟩ := exists_of_bind_ok read
      obtain ⟨others, _, later, last⟩ := exists_of_bind_ok read
      cases last
      rw [List.mapM_cons]
      exact bind_eq_of_eq (follows _ _ _ here) fun x => map_eq_of_eq (ih later) fun xs => x :: xs

/-- Every part of a container has been read. -/
theorem exists_of_mem_readParts {more : Bool → Reader Bool} {part : Reader α} {steps : Nat} {first : Bool}
    {parts : List α} (read : readParts more part steps first cs = .ok (parts, rest)) {x : α} (mem : x ∈ parts) :
    ∃ before after, part before = .ok (x, after) := by
  induction steps generalizing cs first parts with
  | zero => contradiction
  | succ steps ih =>
    rw [readParts] at read
    obtain ⟨another, middle, looked, read⟩ := exists_of_bind_ok read
    cases another with
    | false =>
      cases read
      contradiction
    | true =>
      obtain ⟨y, left, here, read⟩ := exists_of_bind_ok read
      obtain ⟨others, _, later, last⟩ := exists_of_bind_ok read
      cases last
      rcases List.mem_cons.1 mem with rfl | later_mem
      · exact ⟨_, _, here⟩
      · exact ih later later_mem

theorem depth_of_scalar {c : Char} {more : List Char} (scalar : Scalar more rest c value) :
    (Value.ofJson value).depth = 0 := by
  cases scalar with
  | @number _ n => cases n <;> rfl
  | _ => rfl

/-- A value that has been read is not deeper than it may be. -/
theorem depth_le_of_readValue (read : readValue depth cs = .ok (value, rest)) :
    (Value.ofJson value).depth ≤ depth := by
  induction depth generalizing cs rest value with
  | zero =>
    cases spelled_of_readValue read with
    | scalar _ _ _ scalar => exact (depth_of_scalar (scalar_of_readScalar scalar)).le
    | array _ nests | object _ nests => contradiction
  | succ depth ih =>
    cases spelled_of_readValue read with
    | scalar _ _ _ scalar => exact (depth_of_scalar (scalar_of_readScalar scalar)).le.trans (Nat.zero_le _)
    | array front nests read =>
      cases nests
      obtain ⟨left, parts, -⟩ := exists_of_readArray read
      rw [readItems_eq] at parts
      rw [Value.ofJson_arr]
      refine Whole.depth_seq_le fun inner mem => ?_
      obtain ⟨item, held, rfl⟩ := List.mem_map.1 mem
      obtain ⟨_, _, here⟩ := exists_of_mem_readParts parts held
      exact ih here
    | object front nests read =>
      cases nests
      obtain ⟨left, parts, -⟩ := exists_of_readObject read
      rw [readEntries_eq] at parts
      rw [Value.ofJson_obj]
      refine Whole.depth_map_le fun inner mem => ⟨?_, ?_⟩
      all_goals obtain ⟨entry, held, rfl⟩ := List.mem_map.1 mem
      · exact Nat.zero_le _
      · obtain ⟨_, _, here⟩ := exists_of_mem_readParts parts held
        obtain ⟨_, _, _, here⟩ := exists_of_bind_ok here
        obtain ⟨_, _, here, last⟩ := exists_of_bind_ok here
        cases last
        exact ih here

theorem exists_of_decode {text : String} (spells : decode text = .ok value) :
    ∃ rest, readValue maxDepth text.toList = .ok (value, rest) ∧ (rest.dropWhile isSpace).isEmpty := by
  unfold decode readWhole at spells
  cases read : readValue maxDepth text.toList with
  | error e =>
    rw [read] at spells
    contradiction
  | ok result =>
    obtain ⟨found, rest⟩ := result
    rw [read] at spells
    change (if (rest.dropWhile isSpace).isEmpty then .ok found else .error .malformed : Except ReadError Json) = _
      at spells
    split at spells
    next blank =>
      cases spells
      exact ⟨rest, rfl, blank⟩
    next => contradiction

/-- What a text spells is not deeper than it may be. -/
theorem depth_le_of_decode {text : String} (spells : decode text = .ok value) :
    (Value.ofJson value).depth ≤ maxDepth := by
  obtain ⟨_, read, -⟩ := exists_of_decode spells
  exact depth_le_of_readValue read

/-- A container is opened, its parts are read, and it is closed. -/
theorem container_follows {inner : Nat} {opening mark : Char} {more left : List Char} {parts : Nat → Reader α}
    {result : Except ReadError α} (taken : parts (more.length + 1) more = result.map fun x => (x, left))
    (closes : leave mark left = .ok ((), rest)) :
    (enter (inner + 1) >>= fun _ => stepsLeft >>= fun steps => parts steps >>= fun x =>
      leave mark >>= fun _ => pure x) (opening :: more) = result.map fun x => (x, rest) := by
  have entered : enter (inner + 1) (opening :: more) = .ok ((), more) := rfl
  have counted : stepsLeft more = .ok (more.length + 1, more) := rfl
  refine (bind_ok entered).trans ((bind_ok counted).trans ?_)
  cases result with
  | error e => exact bind_error taken
  | ok x => exact (bind_ok taken).trans (bind_ok closes)

theorem follows_list {item : Reader α} {whole : Whole (Except ReadError) α}
    (follows : Follows (depth - 1) item whole) : Follows depth (listReader depth item) (Whole.listOf whole) := by
  intro cs value rest read
  have refused {c : Char} {more : List Char} (front : cs.dropWhile isSpace = c :: more) (other : c ≠ '[') :
      listReader depth item cs =
        .error (.mismatch (.invalidType (.ofValue (Value.ofJson value)) "a sequence")) := by
    refine (bind_ok (peek_ok front)).trans ?_
    split
    · contradiction
    · exact unexpected_of_front read front "a sequence"
  cases spelled_of_readValue read with
  | scalar front notArray notObject scalar =>
    cases scalar_of_readScalar scalar with
    | @number _ n => cases n <;> exact refused front notArray
    | _ => exact refused front notArray
  | object front => exact refused front (by decide)
  | @array inner more rest items front nests read =>
    subst nests
    obtain ⟨left, parts, closes⟩ := exists_of_readArray read
    refine (bind_ok (peek_ok front)).trans (container_follows ?_ closes)
    rw [readItems_eq] at parts
    rw [readItems_eq, Value.ofJson_arr, Whole.listOf, List.mapM_map]
    exact readParts_follow follows parts

theorem follows_entries {inner : Reader α} {whole : Whole (Except ReadError) α}
    (follows : Follows (depth - 1) inner whole) :
    Follows depth (entriesReader depth inner) (Whole.entriesOf whole) := by
  intro cs value rest read
  have refused {c : Char} {more : List Char} (front : cs.dropWhile isSpace = c :: more) (other : c ≠ '{') :
      entriesReader depth inner cs =
        .error (.mismatch (.invalidType (.ofValue (Value.ofJson value)) "a map")) := by
    refine (bind_ok (peek_ok front)).trans ?_
    split
    · contradiction
    · exact unexpected_of_front read front "a map"
  cases spelled_of_readValue read with
  | scalar front notArray notObject scalar =>
    cases scalar_of_readScalar scalar with
    | @number _ n => cases n <;> exact refused front notObject
    | _ => exact refused front notObject
  | array front => exact refused front (by decide)
  | @object depth more rest entries front nests read =>
    subst nests
    obtain ⟨left, parts, closes⟩ := exists_of_readObject read
    refine (bind_ok (peek_ok front)).trans (container_follows ?_ closes)
    rw [readEntries_eq] at parts
    rw [readEntries_eq, Value.ofJson_obj, Whole.entriesOf, List.mapM_map]
    refine readParts_follow (fun cs entry rest read => ?_) parts
    obtain ⟨key, middle, named, read⟩ := exists_of_bind_ok read
    obtain ⟨value, _, read, last⟩ := exists_of_bind_ok read
    cases last
    exact (bind_ok named).trans (map_eq_of_eq (follows _ _ _ read) fun x => (key, x))

/-! ## Records -/

/-- A container is not closed where a part follows. -/
theorem leave_of_ahead {mark : Char} {first : Bool} (ahead : Ahead mark first cs true rest) (notComma : mark ≠ ',') :
    leave mark cs = .error .malformed := by
  cases ahead with
  | first front goesOn =>
    refine (bind_ok (peek_ok front)).trans ?_
    rw [if_neg goesOn]
    rfl
  | next front =>
    refine (bind_ok (peek_ok front)).trans ?_
    rw [if_neg notComma.symm]
    rfl

theorem front_of_ahead {mark : Char} {first : Bool} (ahead : Ahead mark first cs false rest) :
    ∃ tail, rest = mark :: tail ∧ cs.dropWhile isSpace = rest := by
  cases ahead with
  | close front => exact ⟨_, rfl, front⟩

theorem leave_dropWhile (mark : Char) (cs : List Char) : leave mark (cs.dropWhile isSpace) = leave mark cs :=
  peek_bind_dropWhile _ cs

/-- Only a container without parts can be closed. -/
theorem leave_of_readParts {more : Bool → Reader Bool} {part : Reader α} {mark : Char}
    (tells : ∀ first another cs rest, more first cs = .ok (another, rest) → Ahead mark first cs another rest)
    (notComma : mark ≠ ',') {steps : Nat} {first : Bool} {parts : List α} {left : List Char}
    (read : readParts more part steps first cs = .ok (parts, left)) (closes : leave mark left = .ok ((), rest)) :
    leave mark cs = if parts.isEmpty then .ok ((), rest) else .error .malformed := by
  cases steps with
  | zero => contradiction
  | succ steps =>
    rw [readParts] at read
    obtain ⟨another, middle, looked, read⟩ := exists_of_bind_ok read
    have ahead := tells _ _ _ _ looked
    cases another with
    | false =>
      cases read
      obtain ⟨_, -, front⟩ := front_of_ahead ahead
      rwa [← front, leave_dropWhile] at closes
    | true =>
      obtain ⟨x, _, _, read⟩ := exists_of_bind_ok read
      obtain ⟨others, _, _, last⟩ := exists_of_bind_ok read
      cases last
      exact leave_of_ahead ahead notComma

section Records

variable {shape : RecordShape} {field : Nat → σ → Reader σ} {whole : Nat → σ → Whole (Except ReadError) σ}
  (follows : ∀ index record, Follows depth (field index record) (whole index record))

include follows

/-- The fields of a record are taken from a list as from its items, up to the end of the list. -/
theorem positions_follow (names : List (String × Presence)) {start steps : Nat} {items : List Json}
    {left : List Char} (record : σ) (read : readItems (readValue depth) steps (start = 0) cs = .ok (items, left))
    (closes : leave ']' left = .ok ((), rest)) :
    (readPositions shape field (names.zipIdx start) record >>= fun made => leave ']' >>= fun _ => pure made) cs =
      (Whole.positions shape whole (names.zipIdx start) (items.map Value.ofJson) record).map
        fun made => (made, rest) := by
  induction names generalizing start steps items cs record with
  | nil =>
    change (leave ']' >>= fun _ => pure record) cs = _
    rw [readItems_eq] at read
    have closed := leave_of_readParts (fun _ _ _ _ => ahead_of_moreItems) (by decide) read closes
    cases items with
    | nil => exact bind_ok closed
    | cons => exact bind_error closed
  | cons name names ih =>
    cases steps with
    | zero => contradiction
    | succ steps =>
      rw [readItems] at read
      obtain ⟨another, middle, looked, read⟩ := exists_of_bind_ok read
      rw [List.zipIdx_cons, readPositions, bind_assoc, bind_ok looked]
      cases another with
      | true =>
        obtain ⟨item, _, here, read⟩ := exists_of_bind_ok read
        obtain ⟨others, _, later, last⟩ := exists_of_bind_ok read
        cases last
        rw [if_pos rfl, bind_assoc, List.map_cons, Whole.positions]
        exact bind_eq_of_eq (follows start record _ _ _ here) fun made => ih made later
      | false =>
        cases read
        rw [if_neg Bool.false_ne_true, List.map_nil, Whole.positions]
        split
        next defaulted =>
          obtain ⟨tail, rfl, -⟩ := front_of_ahead (ahead_of_moreItems looked)
          have behind : (']' :: tail).dropWhile isSpace = ']' :: tail := List.dropWhile_cons_of_neg (by decide)
          have ended : readItems (readValue depth) 1 (start + 1 = 0) (']' :: tail) = .ok ([], ']' :: tail) :=
            bind_ok (separates_items.close _ _ tail behind)
          exact ih record ended
        next => rfl

/-- The fields of a record are taken from an object as from its entries; the others are passed over. -/
theorem fields_follow {steps : Nat} {first : Bool} {entries : List (String × Json)} (seen : List Nat) (record : σ)
    (read : readEntries (readValue depth) steps first cs = .ok (entries, rest)) :
    readFields shape field steps first seen record cs =
      (Whole.fields shape whole seen (entries.map fun entry => (.str entry.1, Value.ofJson entry.2)) record).map
        fun made => (made, rest) := by
  induction steps generalizing cs first entries seen record with
  | zero => contradiction
  | succ steps ih =>
    rw [readEntries] at read
    obtain ⟨another, middle, looked, read⟩ := exists_of_bind_ok read
    rw [readFields, bind_ok looked]
    cases another with
    | false =>
      cases read
      rw [if_neg Bool.false_ne_true, List.map_nil, Whole.fields]
      cases shape.missing? seen <;> rfl
    | true =>
      obtain ⟨key, _, named, read⟩ := exists_of_bind_ok read
      obtain ⟨value, _, here, read⟩ := exists_of_bind_ok read
      obtain ⟨others, _, later, last⟩ := exists_of_bind_ok read
      cases last
      obtain ⟨text, _, quoted, rfl, colon⟩ := exists_of_readKey named
      have passed : (advance : Reader Unit) middle = .ok ((), middle.tail) := rfl
      rw [if_pos rfl, bind_ok passed, bind_ok quoted, List.map_cons, Whole.fields]
      dsimp only [Description.Attempt.fieldOf?]
      cases shape.index? (String.ofList text) with
      | none => exact (bind_ok colon).trans ((bind_ok (skipValue_of_readValue here)).trans (ih seen record later))
      | some index =>
        dsimp only
        split
        next => rfl
        next =>
          have taken := follows index record _ _ _ here
          exact (bind_ok colon).trans (bind_eq_of_eq taken fun made => ih (index :: seen) made later)

end Records

theorem follows_record (shape : RecordShape) (start : σ) {field : Nat → σ → Reader σ}
    {whole : Nat → σ → Whole (Except ReadError) σ}
    (follows : ∀ inner, depth = inner + 1 → ∀ index record,
      Follows inner (field index record) (whole index record)) :
    Follows depth (recordReader depth shape start field) (Whole.record shape start whole) := by
  intro cs value rest read
  have refused {c : Char} {more : List Char} (front : cs.dropWhile isSpace = c :: more) (notArray : c ≠ '[')
      (notObject : c ≠ '{') : recordReader depth shape start field cs =
        .error (.mismatch (.invalidType (.ofValue (Value.ofJson value)) shape.title)) := by
    refine (bind_ok (peek_ok front)).trans ?_
    split
    · contradiction
    · contradiction
    · exact unexpected_of_front read front shape.title
  cases spelled_of_readValue read with
  | scalar front notArray notObject scalar =>
    cases scalar_of_readScalar scalar with
    | @number _ n => cases n <;> exact refused front notArray notObject
    | _ => exact refused front notArray notObject
  | @array depth more rest items front nests read =>
    subst nests
    obtain ⟨left, parts, closes⟩ := exists_of_readArray read
    have entered : enter (depth + 1) ('[' :: more) = .ok ((), more) := rfl
    rw [Value.ofJson_arr]
    refine (bind_ok (peek_ok front)).trans ((bind_ok entered).trans ?_)
    exact positions_follow (follows _ rfl) shape.fields start parts closes
  | @object depth more rest entries front nests read =>
    subst nests
    obtain ⟨left, parts, closes⟩ := exists_of_readObject read
    rw [Value.ofJson_obj]
    exact (bind_ok (peek_ok front)).trans (container_follows (fields_follow (follows _ rfl) [] start parts) closes)

/-! ## Known words -/

theorem variant_follows (known : List String) (name : String) (cs : List Char) :
    variant known name cs = (Whole.variant known name : Except ReadError Nat).map fun index => (index, cs) := by
  unfold variant Whole.variant
  cases known.idxOf? name <;> rfl

/-- A word and null behind it, if the object ends there. -/
theorem pair_follows {word : Reader Nat} {found : Except ReadError Nat} {unit : Except ReadError Unit} {ends : Bool}
    {between after behind : List Char} (named : word cs = found.map fun index => (index, between))
    (colon : leave ':' between = .ok ((), after)) (null : unitReader after = unit.map fun x => (x, behind))
    (closed : leave '}' behind = if ends then .ok ((), rest) else .error .malformed) :
    (do
      let index ← word
      leave ':'
      unitReader
      leave '}'
      pure index : Reader Nat) cs =
    (found >>= fun index => unit >>= fun _ => if ends then pure index else .error .malformed).map
      fun index => (index, rest) := by
  refine bind_eq_of_eq named fun index => (bind_ok colon).trans (bind_eq_of_eq null fun _ => ?_)
  cases ends with
  | true => exact bind_ok closed
  | false => exact bind_error closed

/-- A word and null behind it, up to the end of the object. -/
theorem entry_follows {steps : Nat} {known : List String} {entries : List (String × Json)} {left : List Char}
    (read : readEntries (readValue depth) steps true cs = .ok (entries, left))
    (closes : leave '}' left = .ok ((), rest)) :
    (do
      let index ← textReader "variant identifier" >>= variant known
      leave ':'
      unitReader
      leave '}'
      pure index : Reader Nat) cs =
    (Whole.choice known (.map (entries.map fun entry => (.str entry.1, Value.ofJson entry.2))) :
      Except ReadError Nat).map fun index => (index, rest) := by
  cases steps with
  | zero => contradiction
  | succ steps =>
    rw [readEntries] at read
    obtain ⟨another, middle, looked, read⟩ := exists_of_bind_ok read
    obtain ⟨ahead, quoted⟩ := ahead_of_moreEntries looked
    cases another with
    | false =>
      cases read
      obtain ⟨tail, rfl, front⟩ := front_of_ahead ahead
      have refused : textReader "variant identifier" cs = .error .malformed := (bind_ok (peek_ok front)).trans rfl
      exact bind_error (bind_error refused)
    | true =>
      obtain ⟨key, after, named, read⟩ := exists_of_bind_ok read
      obtain ⟨value, behind, here, read⟩ := exists_of_bind_ok read
      obtain ⟨others, _, later, last⟩ := exists_of_bind_ok read
      cases last
      obtain ⟨text, between, spelled, rfl, colon⟩ := exists_of_readKey named
      obtain ⟨more, rfl⟩ := List.head?_eq_some_iff.1 (quoted rfl)
      have passed : (advance : Reader Unit) ('"' :: more) = .ok ((), more) := rfl
      have word : textReader "variant identifier" cs = .ok (String.ofList text, between) := by
        cases ahead with
        | first front => exact (bind_ok (peek_ok front)).trans ((bind_ok passed).trans (bind_ok spelled))
      have known_word : (textReader "variant identifier" >>= variant known) cs =
          (Whole.variant known (String.ofList text) : Except ReadError Nat).map fun index => (index, between) :=
        (bind_ok word).trans (variant_follows known _ between)
      rw [readEntries_eq] at later
      have closed := leave_of_readParts (fun _ _ _ _ read => (ahead_of_moreEntries read).1) (by decide) later closes
      have whole := pair_follows known_word colon (follows_unit _ _ _ here) closed
      rw [List.map_cons, Whole.choice, List.isEmpty_map]
      exact whole

theorem follows_choice (known : List String) : Follows depth (choiceReader 1 known) (Whole.choice known) := by
  intro cs value rest read
  have refused {c : Char} {more : List Char} (front : cs.dropWhile isSpace = c :: more) (notObject : c ≠ '{')
      (notQuote : c ≠ '"') : choiceReader 1 known cs = .error .malformed := by
    refine (bind_ok (peek_ok front)).trans ?_
    split
    · contradiction
    · contradiction
    · rfl
  cases spelled_of_readValue read with
  | scalar front notArray notObject scalar =>
    cases scalar_of_readScalar scalar with
    | text text =>
      have taken := follows_text "variant identifier" _ _ _ ((readValue_dropWhile depth cs).trans read)
      rw [front] at taken
      exact (bind_ok (peek_ok front)).trans ((bind_ok taken).trans (variant_follows known _ rest))
    | @number _ n _ _ _ notQuote => cases n <;> exact refused front notObject notQuote
    | _ => exact refused front notObject (by decide)
  | array front => exact refused front (by decide) (by decide)
  | @object depth more rest entries front nests read =>
    subst nests
    obtain ⟨left, parts, closes⟩ := exists_of_readObject read
    have entered : enter 1 ('{' :: more) = .ok ((), more) := rfl
    rw [Value.ofJson_obj]
    exact (bind_ok (peek_ok front)).trans ((bind_ok entered).trans (entry_follows parts closes))

/-- The JSON value that a value is, in canonical form. -/
def spelled (value : Value) : Except ReadError Json :=
  match value.toJson? with
  | some json => .ok (canonical json)
  | none => .error .malformed

theorem spelled_ofJson (value : Json) : spelled (Value.ofJson value) = .ok (canonical value) := by
  rw [spelled, Value.toJson?_ofJson]

theorem follows_json : Follows depth (canonical <$> readValue depth) spelled := by
  intro cs value rest read
  rw [spelled_ofJson, map_eq_pure_bind]
  exact bind_ok read

/-- **Streams and whole values.** JSON as it is read from a text matches the values that it spells. -/
theorem format_matches : format.Matches (Whole.format spelled) True Follows where
  text := follows_text _
  flag := follows_flag
  optional := follows_optional
  choice := follows_choice
  listOf := follows_list
  entriesOf := follows_entries
  record shape start _ _ fields := follows_record shape start fun inner nests index record =>
    fields inner nests index record record fun _ => rfl
  json := follows_json
  untyped := follows_untyped
  map := by
    intro α β depth reader whole inner g g' same
    obtain rfl : g = g' := funext fun x => same x trivial
    exact follows_map inner g

end Json
end CmdletForge
