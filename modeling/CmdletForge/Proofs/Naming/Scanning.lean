import CmdletForge.Proofs.Naming.Characters
import CmdletForge.Proofs.Naming.Letters

/-!
# The words of an identifier, read from left to right

`words` cuts a text by recursion on it. A scan does the same by position: it keeps the word that is being read
and the words before it, and to decide where a word starts it reads the character before a position and the
one behind it. A position outside of the text ends the scan without an answer. `scan?_eq` says that this never
happens: the character before is only asked for where a word is being read, and there is one then.
-/

namespace CmdletForge.Naming

open CmdletForge.Text

/-! ## The rest of a word -/

/-- A piece in lowercase. -/
def lowered (piece : List Char) : String := String.ofList (piece.flatMap toLower)

theorem words_eq (identifier : String) : words identifier = (pieces identifier.toList).map lowered := rfl

theorem lowered_append (front back : List Char) : lowered (front ++ back) = lowered front ++ lowered back := by
  rw [lowered, lowered, lowered, List.flatMap_append, String.ofList_append]

/-- Every character has a lowercase, so no piece becomes empty. -/
theorem lowered_ne_empty {piece : List Char} (nonempty : piece ≠ []) : lowered piece ≠ "" := by
  obtain ⟨c, cs, rfl⟩ := List.exists_cons_of_ne_nil nonempty
  obtain ⟨d, ds, -, lower, -⟩ := capital_spec c
  intro empty
  have chars := congrArg String.toList empty
  simp [lowered, lower] at chars

/-- What goes on the word of a character, and the text behind that word. -/
def restOfWord (prev : Char) : List Char → List Char × List Char
  | [] => ([], [])
  | c :: cs =>
    if isAlphanumeric c && !startsWord prev c cs.head? then
      let (own, left) := restOfWord c cs
      (c :: own, left)
    else ([], c :: cs)

section RestOfWord

variable {prev c : Char} {cs : List Char}

theorem restOfWord_of_joined (joined : (isAlphanumeric c && !startsWord prev c cs.head?) = true) :
    restOfWord prev (c :: cs) = (c :: (restOfWord c cs).1, (restOfWord c cs).2) := by
  rw [restOfWord, if_pos joined]

theorem restOfWord_of_cut (cut : (isAlphanumeric c && !startsWord prev c cs.head?) = false) :
    restOfWord prev (c :: cs) = ([], c :: cs) := by
  rw [restOfWord, if_neg (by simp [cut])]

/-- The first piece is the word of the first character. -/
theorem pieces_cons (alnum : isAlphanumeric c = true) :
    pieces (c :: cs) = (c :: (restOfWord c cs).1) :: pieces (restOfWord c cs).2 := by
  induction cs generalizing c with
  | nil => simp [pieces, alnum, restOfWord]
  | cons d ds ih =>
    cases joined : isAlphanumeric d && !startsWord c d ds.head? with
    | true =>
      have here : isAlphanumeric d = true := (Bool.and_eq_true_iff.1 joined).1
      rw [restOfWord_of_joined joined, pieces, if_pos alnum]
      simp only [joined, if_true]
      rw [ih here, attach]
    | false =>
      rw [restOfWord_of_cut joined, pieces, if_pos alnum]
      simp [joined]

theorem pieces_cons_of_apart (apart : isAlphanumeric c = false) : pieces (c :: cs) = pieces cs := by
  rw [pieces.eq_def]
  simp [apart]

/-- The rest of a word and the text behind it are the whole text. -/
theorem restOfWord_flatten (prev : Char) (cs : List Char) :
    (restOfWord prev cs).1 ++ (restOfWord prev cs).2 = cs := by
  induction cs generalizing prev with
  | nil => rfl
  | cons c cs ih =>
    cases joined : isAlphanumeric c && !startsWord prev c cs.head? with
    | true => rw [restOfWord_of_joined joined, List.cons_append, ih]
    | false => rw [restOfWord_of_cut joined, List.nil_append]

/-- Letters and numbers go on a word if none of them is a capital. -/
theorem restOfWord_append {own rest : List Char}
    (plain : ∀ d ∈ own, isAlphanumeric d = true ∧ isUppercase d = false) :
    restOfWord prev (own ++ rest) =
      (own ++ (restOfWord (own.getLastD prev) rest).1, (restOfWord (own.getLastD prev) rest).2) := by
  induction own generalizing prev with
  | nil => rfl
  | cons d own ih =>
    obtain ⟨⟨alnum, small⟩, others⟩ := List.forall_mem_cons.1 plain
    have joined : (isAlphanumeric d && !startsWord prev d (own ++ rest).head?) = true := by
      simp [alnum, startsWord, small]
    rw [List.cons_append, restOfWord_of_joined joined, ih others, List.getLastD_cons]
    rfl

/-- Behind a character that is no part of a word the pieces are those of the text there. Before it, they are
those of the text there too, because it does not pass for a letter that makes a word of the last capital. -/
theorem pieces_append {x : Char} (apart : isAlphanumeric x = false) (front back : List Char) :
    pieces (front ++ x :: back) = pieces front ++ pieces back := by
  have ahead (c d : Char) (ds : List Char) :
      startsWord c d (ds ++ x :: back).head? = startsWord c d ds.head? := by
    cases ds with
    | nil => simp [startsWord, not_isLowercase_of_apart apart]
    | cons e es => rfl
  induction front using pieces.induct with
  | case1 => rw [List.nil_append, pieces_cons_of_apart apart, pieces, List.nil_append]
  | case2 c alnum =>
    rw [List.singleton_append, pieces, if_pos alnum]
    simp [apart, pieces_cons_of_apart apart, pieces, alnum]
  | case3 c alnum d ds joined ih =>
    have joined' : (isAlphanumeric d && !startsWord c d (ds ++ x :: back).head?) = true := by
      rw [ahead, joined]
    have here : isAlphanumeric d = true := (Bool.and_eq_true_iff.1 joined).1
    rw [List.cons_append] at ih ⊢
    rw [List.cons_append, pieces, if_pos alnum, pieces, if_pos alnum]
    simp only [joined, joined', if_true]
    rw [ih, pieces_cons here]
    rfl
  | case4 c alnum d ds cut ih =>
    have cut' : ¬ (isAlphanumeric d && !startsWord c d (ds ++ x :: back).head?) = true := by
      rwa [ahead]
    rw [List.cons_append] at ih ⊢
    rw [List.cons_append, pieces, if_pos alnum, pieces, if_pos alnum]
    simp only [cut, cut']
    rw [ih]
    rfl
  | case5 c cs other ih =>
    have other : isAlphanumeric c = false := by simpa using other
    rw [List.cons_append, pieces_cons_of_apart other, pieces_cons_of_apart other, ih]

/-- No rule for the beginning of a word looks across a separator. -/
theorem words_append {x : Char} (apart : isAlphanumeric x = false) (front back : String) :
    words (front ++ String.singleton x ++ back) = words front ++ words back := by
  have chars : (front ++ String.singleton x ++ back).toList = front.toList ++ x :: back.toList := by simp
  rw [words_eq, chars, pieces_append apart, List.map_append]
  rfl

end RestOfWord

/-! ## The scan -/

/-- A scan in progress: the word that is being read, and the words before it. -/
structure Scan where
  current : String := ""
  tokens : List String := []

namespace Scan

/-- Ends the word that is being read. -/
def flush (scan : Scan) : Scan :=
  if scan.current.isEmpty then scan else { tokens := scan.tokens ++ [scan.current] }

/-- Adds a character to the word that is being read. -/
def push (scan : Scan) (c : Char) : Scan :=
  { scan with current := scan.current ++ String.ofList (toLower c) }

/-- The character before a position of a text. -/
def before? (chars : List Char) : Nat → Option Char
  | 0 => none
  | i + 1 => chars[i]?

/-- Takes the character at a position of a text. -/
def take? (chars : List Char) (scan : Scan) (entry : Char × Nat) : Option Scan :=
  let (c, i) := entry
  if !isAlphanumeric c then some scan.flush
  else if !scan.current.isEmpty && isUppercase c then do
    let prev ← before? chars i
    let starts := isLowercase prev || isNumeric prev ||
      (isUppercase prev && chars[i + 1]?.any isLowercase)
    return (if starts then scan.flush else scan).push c
  else some (scan.push c)

end Scan

/-- The words that a scan of an identifier finds. -/
def scan? (identifier : String) : Option (List String) := do
  let chars := identifier.toList
  let done ← chars.zipIdx.foldlM (Scan.take? chars) {}
  return done.flush.tokens

namespace Scan

variable {scan : Scan} {done rest : List Char} {c prev : Char} {found : List String}

/-- What a scan of a text will have found, as it stands between two parts of the text: outside of a word these
are the words of the rest; inside of one, its beginning is read and its end is not. -/
inductive Leads (scan : Scan) (done rest : List Char) : List String → Prop
  | between (empty : scan.current = "") :
    Leads scan done rest (scan.tokens ++ (pieces rest).map lowered)
  | inside (prev : Char) (last : done.getLast? = some prev) (nonempty : scan.current ≠ "") :
    Leads scan done rest (scan.tokens ++ (scan.current ++ lowered (restOfWord prev rest).1) ::
      (pieces (restOfWord prev rest).2).map lowered)

theorem flush_of_empty (empty : scan.current = "") : scan.flush = scan := by
  simp [flush, empty]

theorem flush_of_nonempty (nonempty : scan.current ≠ "") :
    scan.flush = { tokens := scan.tokens ++ [scan.current] } := by
  simp [flush, nonempty]

theorem push_ne_empty (scan : Scan) (c : Char) : (scan.push c).current ≠ "" := by
  have some : lowered [c] ≠ "" := lowered_ne_empty (List.cons_ne_nil c [])
  intro empty
  rw [push] at empty
  have both := String.append_eq_empty_iff.1 empty
  exact some (by simpa [lowered] using both.2)

theorem before?_append (done rest : List Char) :
    before? (done ++ rest) done.length = done.getLast? := by
  rcases List.eq_nil_or_concat done with rfl | ⟨front, last, rfl⟩
  · rfl
  · simp [before?]

/-- A word that starts at a character behind finished words. -/
theorem Leads.start (scan : Scan) (done rest : List Char) (empty : scan.current = "")
    (alnum : isAlphanumeric c = true) :
    Leads (scan.push c) (done ++ [c]) rest (scan.tokens ++ (pieces (c :: rest)).map lowered) := by
  have first : (scan.push c).current = lowered [c] := by simp [push, empty, lowered]
  have whole : lowered (c :: (restOfWord c rest).1) =
      (scan.push c).current ++ lowered (restOfWord c rest).1 := by
    rw [first, ← lowered_append, List.singleton_append]
  rw [pieces_cons alnum, List.map_cons, whole]
  exact .inside c (by simp) (push_ne_empty scan c)

/-- Inside of a word the scan finds the character before, and asks whether a word starts. -/
theorem take?_inside (last : done.getLast? = some prev) (nonempty : scan.current ≠ "")
    (alnum : isAlphanumeric c = true) :
    scan.take? (done ++ c :: rest) (c, done.length) =
      some ((if startsWord prev c rest.head? then scan.flush else scan).push c) := by
  have here : before? (done ++ c :: rest) done.length = some prev := by rw [before?_append, last]
  have next : (done ++ c :: rest)[done.length + 1]? = rest.head? := by
    rw [List.getElem?_append_right (Nat.le_add_right _ _), List.head?_eq_getElem?]
    simp
  cases upper : isUppercase c with
  | true => simp [take?, alnum, upper, nonempty, here, next, startsWord]
  | false => simp [take?, alnum, upper, startsWord]

/-- **One character.** The scan can take it, and finds what it would have found. -/
theorem Leads.step (leads : Leads scan done (c :: rest) found) :
    ∃ next, scan.take? (done ++ c :: rest) (c, done.length) = some next ∧
      Leads next (done ++ [c]) rest found := by
  cases alnum : isAlphanumeric c with
  | false =>
    refine ⟨scan.flush, by simp [take?, alnum], ?_⟩
    cases leads with
    | between empty =>
      rw [flush_of_empty empty, pieces_cons_of_apart alnum]
      exact .between empty
    | inside prev last nonempty =>
      rw [restOfWord_of_cut (by simp [alnum]), pieces_cons_of_apart alnum, flush_of_nonempty nonempty]
      have between : Leads { tokens := scan.tokens ++ [scan.current] } (done ++ [c]) rest _ := .between rfl
      simpa [lowered] using between
  | true =>
    cases leads with
    | between empty =>
      refine ⟨scan.push c, by simp [take?, alnum, empty], ?_⟩
      exact .start scan done rest empty alnum
    | inside prev last nonempty =>
      refine ⟨_, take?_inside last nonempty alnum, ?_⟩
      cases starts : startsWord prev c rest.head? with
      | true =>
        -- The word ends, and the character begins the next one.
        rw [if_pos rfl, restOfWord_of_cut (by simp [starts]), flush_of_nonempty nonempty]
        simpa [lowered] using Leads.start { tokens := scan.tokens ++ [scan.current] } done rest rfl alnum
      | false =>
        rw [if_neg Bool.false_ne_true, restOfWord_of_joined (by simp [alnum, starts])]
        have whole : scan.current ++ lowered (c :: (restOfWord c rest).1) =
            (scan.push c).current ++ lowered (restOfWord c rest).1 := by
          rw [← List.singleton_append, lowered_append, ← String.append_assoc]
          simp [push, lowered]
        rw [whole]
        exact .inside c (by simp) (push_ne_empty scan c)

/-- **The rest of a text.** A scan takes all of it, and has found then what it leads to. -/
theorem Leads.run (leads : Leads scan done rest found) :
    ∃ last, (rest.zipIdx done.length).foldlM (take? (done ++ rest)) scan = some last ∧
      last.flush.tokens = found := by
  induction rest generalizing scan done with
  | nil =>
    refine ⟨scan, rfl, ?_⟩
    cases leads with
    | between empty => simp [flush_of_empty empty, pieces]
    | inside prev last nonempty => simp [flush_of_nonempty nonempty, restOfWord, pieces, lowered]
  | cons c rest ih =>
    obtain ⟨next, taken, leads⟩ := leads.step
    obtain ⟨last, ran, tokens⟩ := ih leads
    refine ⟨last, ?_, tokens⟩
    rw [List.zipIdx_cons, List.foldlM_cons, taken]
    simpa using ran

end Scan

/-- A scan never reads outside of the text, and finds the words. -/
theorem scan?_eq (identifier : String) : scan? identifier = some (words identifier) := by
  have start : Scan.Leads {} [] identifier.toList (words identifier) := .between rfl
  obtain ⟨last, ran, tokens⟩ := start.run
  have ran : identifier.toList.zipIdx.foldlM (Scan.take? identifier.toList) {} = some last := ran
  rw [scan?, ran, ← tokens]
  rfl

end CmdletForge.Naming
