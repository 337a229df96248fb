import CmdletForge.Yaml.Cursor

/-!
# The text of YAML scalars

Plain, quoted and block scalars, from where they stand to the text they spell. Inside plain and
quoted scalars a line break is folded: a single one becomes a space, further ones are kept. Each
reader gives up (`none`) where the text is no scalar.
-/

namespace CmdletForge.Yaml

/-- How a scalar is written. -/
inductive ScalarStyle where
  | plain
  | singleQuoted
  | doubleQuoted
  | literal
  | folded
deriving DecidableEq

/-- White space between two words of a scalar: blanks on a line, or line breaks, of which the first
is kept apart. `broken` once a line has ended. -/
structure Gap where
  blanks : List Char
  broken : Bool
  first : List Char
  more : List Char

namespace Gap

/-- No white space. -/
def none : Gap := ⟨[], false, [], []⟩

/-- What the white space contributes to the scalar. -/
def text (g : Gap) : List Char :=
  if g.broken then
    if g.first = ['\n'] then (if g.more.isEmpty then [' '] else g.more) else g.first ++ g.more
  else g.blanks

/-- Reads on over blanks and line breaks. Below the column `margin` of a continued line no tab may
stand. -/
def read (margin : Nat) : (steps : Nat) → Gap → Cursor → Option (Gap × Cursor)
  | 0, _, _ => Option.none
  | steps + 1, g, c =>
    if c.atBlank then
      if g.broken then
        if c.column < margin && c.isAt '\t' then Option.none else read margin steps g c.next
      else read margin steps { g with blanks := g.blanks ++ c.rest.take 1 } c.next
    else if c.atBreak then
      if g.broken then read margin steps { g with more := g.more ++ c.breakText } c.nextLine
      else read margin steps ⟨[], true, c.breakText, g.more⟩ c.nextLine
    else some (g, c)

end Gap

/-! ## Plain scalars -/

/-- A mark that opens or closes a flow collection. -/
def isFlowMark (c : Char) : Bool := c = '[' || c = ']' || c = '{' || c = '}'

/-- The characters of a plain scalar up to white space or a mark. In a flow collection a colon
right before a mark is an error. -/
def plainWord (inFlow : Bool) : (steps : Nat) → Cursor → Option (List Char × Cursor)
  | 0, _ => none
  | steps + 1, c =>
    match c.peek? with
    | none => some ([], c)
    | some x =>
      if isBlank x || isBreak x then some ([], c)
      else if inFlow && x = ':' && (c.ahead? 1).any fun y => y = ',' || y = '?' || isFlowMark y then
        none
      else if x = ':' && c.blankAhead 1 then some ([], c)
      else if inFlow && (x = ',' || isFlowMark x) then some ([], c)
      else do
        let (word, rest) ← plainWord inFlow steps c.next
        some (x :: word, rest)

/-- A plain scalar from `c` on, after the text `before` and the white space `gap`. Also answers
whether a line ended after its last word. -/
def plainText (inFlow : Bool) (margin : Nat) :
    (steps : Nat) → (before : List Char) → Gap → Cursor → Option (List Char × Bool × Cursor)
  | 0, _, _, _ => none
  | steps + 1, before, gap, c =>
    if c.atDocumentMark || c.isAt '#' then some (before, gap.broken, c)
    else do
      let (word, c) ← plainWord inFlow c.steps c
      let (before, gap) := if word.isEmpty then (before, gap) else (before ++ gap.text ++ word, Gap.none)
      if !(c.atBlank || c.atBreak) then some (before, gap.broken, c)
      else
        let (gap, c) ← gap.read margin c.steps c
        if !inFlow && c.column < margin then some (before, gap.broken, c)
        else plainText inFlow margin steps before gap c

/-! ## Quoted scalars -/

/-- The value of a hexadecimal digit. -/
def hexDigit? (c : Char) : Option Nat :=
  if '0' ≤ c ∧ c ≤ '9' then some (c.toNat - '0'.toNat)
  else if 'a' ≤ c ∧ c ≤ 'f' then some (c.toNat - 'a'.toNat + 10)
  else if 'A' ≤ c ∧ c ≤ 'F' then some (c.toNat - 'A'.toNat + 10)
  else none

/-- The value of hexadecimal digits. -/
def hexNumber? (digits : List Char) : Option Nat :=
  digits.foldlM (fun n d => (hexDigit? d).map (n * 16 + ·)) 0

/-- The character of an escape code of `count` digits: any character but a surrogate. -/
def codeEscape (count : Nat) (digits : List Char) : Option Char := do
  let code ← if (digits.take count).length = count then hexNumber? (digits.take count) else none
  if (0xD800 ≤ code && code < 0xE000) || 0x10FFFF < code then none else some (Char.ofNat code)

/-- The character that an escape after the backslash spells, and the length of the escape. -/
def escape? : List Char → Option (Char × Nat)
  | [] => none
  | c :: rest =>
    match c with
    | '0' => some ('\x00', 1)
    | 'a' => some ('\x07', 1)
    | 'b' => some ('\x08', 1)
    | 't' => some ('\t', 1)
    | '\t' => some ('\t', 1)
    | 'n' => some ('\n', 1)
    | 'v' => some ('\x0b', 1)
    | 'f' => some ('\x0c', 1)
    | 'r' => some ('\r', 1)
    | 'e' => some ('\x1b', 1)
    | ' ' => some (' ', 1)
    | '"' => some ('"', 1)
    | '/' => some ('/', 1)
    | '\\' => some ('\\', 1)
    | 'N' => some ('\x85', 1)
    | '_' => some ('\xa0', 1)
    | 'L' => some ('\u2028', 1)
    | 'P' => some ('\u2029', 1)
    | 'x' => (codeEscape 2 rest).map (·, 3)
    | 'u' => (codeEscape 4 rest).map (·, 5)
    | 'U' => (codeEscape 8 rest).map (·, 9)
    | _ => none

/-- The characters of a single-quoted scalar up to white space or the quote, which is written twice
inside. -/
def singleWord : (steps : Nat) → Cursor → Option (List Char × Cursor)
  | 0, _ => none
  | steps + 1, c =>
    match c.rest with
    | [] => some ([], c)
    | '\'' :: '\'' :: _ => do
      let (word, rest) ← singleWord steps (c.skip 2)
      some ('\'' :: word, rest)
    | x :: _ =>
      if x = '\'' || isBlank x || isBreak x then some ([], c)
      else do
        let (word, rest) ← singleWord steps c.next
        some (x :: word, rest)

/-- The characters of a double-quoted scalar up to white space or the quote, escapes undone. Also
answers whether it stopped after an escaped line break. -/
def doubleWord : (steps : Nat) → Cursor → Option (List Char × Bool × Cursor)
  | 0, _ => none
  | steps + 1, c =>
    match c.rest with
    | [] => some ([], false, c)
    | '\\' :: rest =>
      if rest.head?.any isBreak then some ([], true, c.next.nextLine)
      else do
        let (x, length) ← escape? rest
        let (word, broken, rest) ← doubleWord steps (c.skip (length + 1))
        some (x :: word, broken, rest)
    | x :: _ =>
      if x = '"' || isBlank x || isBreak x then some ([], false, c)
      else do
        let (word, broken, rest) ← doubleWord steps c.next
        some (x :: word, broken, rest)

/-- A quoted scalar after its opening quote and the text `before`. -/
def quotedText (single : Bool) : (steps : Nat) → (before : List Char) → Cursor → Option (List Char × Cursor)
  | 0, _, _ => none
  | steps + 1, before, c =>
    if c.atDocumentMark || c.atEnd then none
    else do
      let (word, broken, c) ←
        if single then (singleWord c.steps c).map fun (word, c) => (word, false, c)
        else doubleWord c.steps c
      let before := before ++ word
      if c.isAt (if single then '\'' else '"') then some (before, c.next)
      else
        let (gap, c) ← Gap.read 0 c.steps { Gap.none with broken } c
        quotedText single steps (before ++ gap.text) c

/-! ## Block scalars -/

/-- Which line breaks stay at the end of a block scalar. -/
inductive Chomping where
  | strip
  | clip
  | keep
deriving DecidableEq

/-- The chomping mark in front. -/
def chomping? (c : Cursor) : Option Chomping :=
  if c.isAt '+' then some .keep else if c.isAt '-' then some .strip else none

/-- The indentation digit in front: none when there is none, an error when it is zero. -/
def increment? (c : Cursor) : Option (Option Nat) :=
  match c.peek? with
  | some x => if x = '0' then none else some (if x.isDigit then some (x.toNat - '0'.toNat) else none)
  | none => some none

/-- The chomping and the indentation digit after a block scalar's mark, in either order. -/
def blockHeader (c : Cursor) : Option (Chomping × Option Nat × Cursor) :=
  match chomping? c with
  | some chomping => do
    let digit ← increment? c.next
    some (chomping, digit, if digit.isSome then c.next.next else c.next)
  | none => do
    match ← increment? c with
    | none => some (.clip, none, c)
    | some digit =>
      match chomping? c.next with
      | some chomping => some (chomping, some digit, c.next.next)
      | none => some (.clip, some digit, c.next)

/-- Empty lines of a block scalar and the spaces of the next line's indentation. With `indent` zero
the indentation is not known yet; `deepest` is the deepest one met. -/
def blockGap (indent : Nat) : (steps deepest : Nat) → Cursor → Option (List Char × Nat × Cursor)
  | 0, _, _ => none
  | steps + 1, deepest, c =>
    let spaces := (c.rest.takeWhile (· = ' ')).length
    let c := c.skip (if indent = 0 then spaces else min spaces (indent - c.column))
    let deepest := max deepest c.column
    if (indent = 0 || c.column < indent) && c.isAt '\t' then none
    else if c.atBreak then do
      let (breaks, deepest, rest) ← blockGap indent steps deepest c.nextLine
      some (c.breakText ++ breaks, deepest, rest)
    else some ([], deepest, c)

/-- The lines of a block scalar. `first` is the break after the line before, `more` the breaks of
the empty lines since; `wasBlank` when that line opened with a blank. A single break between two
lines that open with none is folded in a folded scalar. -/
def blockLines (folded : Bool) (indent : Nat) : (steps : Nat) → (before first more : List Char) →
    (wasBlank : Bool) → Cursor → Option (List Char × List Char × List Char × Cursor)
  | 0, _, _, _, _, _ => none
  | steps + 1, before, first, more, wasBlank, c =>
    if c.column = indent && !c.atEnd then do
      let blank := c.atBlank
      let joint :=
        if folded && first = ['\n'] && !wasBlank && !blank then (if more.isEmpty then [' '] else [])
        else first
      let line := c.rest.takeWhile fun x => !isBreak x
      let c := c.skip line.length
      let (breaks, _, rest) ← blockGap indent c.steps 0 c.nextLine
      blockLines folded indent steps (before ++ joint ++ more ++ line) c.breakText breaks blank rest
    else some (before, first, more, c)

/-- A block scalar after its mark, in a block indented by `parent` columns (-1 at the top). -/
def blockText (folded : Bool) (parent : Int) (c : Cursor) : Option (List Char × Cursor) := do
  let (chomping, increment, c) ← blockHeader c
  let c := (c.skipWhile isBlank).skipComment
  if !c.endsAhead 0 then none
  else
    let c := c.nextLine
    let given := match increment with
      | some n => (max parent 0).toNat + n
      | none => 0
    let (breaks, deepest, c) ← blockGap given c.steps 0 c
    let indent := if given = 0 then max deepest (max (parent + 1).toNat 1) else given
    let (text, first, more, c) ← blockLines folded indent c.steps [] [] breaks false c
    let tail := match chomping with
      | .strip => []
      | .clip => first
      | .keep => first ++ more
    some (text ++ tail, c)

end CmdletForge.Yaml
