import CmdletForge.Yaml.Tag

/-!
# The tokens of a YAML text

Tokens are read when they are asked for, and no further ahead than needed: a token may turn out to
be the start of a mapping key only when the colon after it is met, so reading goes on while the
next token to be given may still be one.

A `TokenSource` holds the tokens that wait, the columns of the open block collections, and for
every open flow collection the last place that may be a key.
-/

namespace CmdletForge.Yaml

/-- A token. Marks that stand in the text and the limits of block collections. -/
inductive Token where
  | streamStart
  | streamEnd
  | versionDirective (major minor : Nat)
  | tagDirective (handle : String) (expansion : List UInt8)
  | documentStart
  | documentEnd
  | blockSequenceStart
  | blockMappingStart
  | blockEnd
  | flowSequenceStart
  | flowSequenceEnd
  | flowMappingStart
  | flowMappingEnd
  | blockEntry
  | flowEntry
  | key
  | value
  | alias (name : String)
  | anchor (name : String)
  | tag (handle : String) (suffix : List UInt8)
  | scalar (text : String) (style : ScalarStyle)
deriving DecidableEq

/-- A place where a mapping key may have started: the number of its first token, and where it
stands. A required one must be followed by a colon. -/
structure KeyMark where
  token : Nat
  required : Bool
  offset : Nat
  line : Nat
  column : Nat

/-- What is left of a text, and the tokens already read from it. -/
structure TokenSource where
  cursor : Cursor
  started : Bool
  waiting : List Token
  given : Nat
  indent : Int
  indents : List Int
  mark : Option KeyMark
  outerMarks : List (Option KeyMark)
  keyAllowed : Bool

namespace TokenSource

/-- The source of a text's tokens. -/
def ofText (text : List Char) : TokenSource :=
  ⟨Cursor.start text, false, [], 0, -1, [], none, [], false⟩

/-- A flow collection is open. -/
def inFlow (s : TokenSource) : Bool := !s.outerMarks.isEmpty

/-- Adds a token at the end. -/
def push (s : TokenSource) (token : Token) : TokenSource := { s with waiting := s.waiting ++ [token] }

/-- Adds a token before the one with a number. -/
def insert (s : TokenSource) (number : Nat) (token : Token) : TokenSource :=
  let place := number - s.given
  { s with waiting := s.waiting.take place ++ token :: s.waiting.drop place }

/-! ## Keys and indentation -/

/-- The mark can no longer be followed by its colon: it is on an earlier line or more than 1024 bytes
back. -/
def isStale (s : TokenSource) (mark : KeyMark) : Bool :=
  mark.line < s.cursor.line || mark.offset + 1024 < s.cursor.offset

/-- The mark if it still may be a key; an error if it had to be one. -/
def refresh (s : TokenSource) : Option KeyMark → Option (Option KeyMark)
  | none => some none
  | some mark =>
    if s.isStale mark then (if mark.required then none else some none) else some (some mark)

/-- Drops the marks that cannot be keys any more. -/
def dropStale (s : TokenSource) : Option TokenSource := do
  let outerMarks ← s.outerMarks.mapM s.refresh
  let mark ← s.refresh s.mark
  some { s with mark, outerMarks }

/-- Drops the innermost mark, which must not be a required one. -/
def dropMark (s : TokenSource) : Option TokenSource :=
  if s.mark.any KeyMark.required then none else some { s with mark := none }

/-- Marks the place in front as a possible key, where one is allowed. -/
def saveMark (s : TokenSource) : Option TokenSource :=
  if s.keyAllowed then do
    let required := !s.inFlow && s.indent = s.cursor.column
    let mark := ⟨s.given + s.waiting.length, required, s.cursor.offset, s.cursor.line, s.cursor.column⟩
    let s ← s.dropMark
    some { s with mark := some mark }
  else some s

/-- Opens a block collection at a column deeper than the current one. -/
def openBlock (s : TokenSource) (column : Nat) (number : Option Nat) (token : Token) : TokenSource :=
  if !s.inFlow && s.indent < column then
    let s := { s with indent := column, indents := s.indent :: s.indents }
    match number with
    | some n => s.insert n token
    | none => s.push token
  else s

/-- Closes the open block collections, innermost first, that are deeper than a column. -/
def closeFrom (column : Int) : (indents : List Int) → (indent : Int) → (ends : Nat) → Int × List Int × Nat
  | [], indent, ends => (indent, [], ends)
  | outer :: rest, indent, ends =>
    if column < indent then closeFrom column rest outer (ends + 1) else (indent, outer :: rest, ends)

/-- Closes the block collections that are deeper than a column. -/
def closeBlocks (s : TokenSource) (column : Int) : TokenSource :=
  if s.inFlow then s
  else
    let (indent, indents, ends) := closeFrom column s.indents s.indent 0
    { s with indent, indents, waiting := s.waiting ++ List.replicate ends .blockEnd }

/-! ## Directives, names and tags -/

/-- A name in front, and what follows it. -/
def takeName (c : Cursor) : List Char × Cursor :=
  let name := c.rest.takeWhile isNameChar
  (name, c.skip name.length)

/-- A number of at most nine digits. -/
def takeNumber (c : Cursor) : Option (Nat × Cursor) :=
  let digits := c.rest.takeWhile Char.isDigit
  if digits.isEmpty || 9 < digits.length then none
  else some (digits.foldl (fun n d => n * 10 + (d.toNat - '0'.toNat)) 0, c.skip digits.length)

/-- A tag's handle: a mark, and a name and a second mark if they follow. -/
def takeHandle (c : Cursor) : Option (List Char × Cursor) :=
  if c.isAt '!' then
    let (name, c) := takeName c.next
    if c.isAt '!' then some ('!' :: name ++ ['!'], c.next) else some ('!' :: name, c)
  else none

/-- A tag: between angle brackets, with a handle, or after a single mark. The mark alone has no
handle either. -/
def takeTag (inFlow : Bool) (c : Cursor) : Option (Token × Cursor) := do
  let (token, c) ←
    if c.ahead? 1 = some '<' then do
      let (bytes, c) ← takeTagBytes true c.steps (c.skip 2)
      if bytes.isEmpty || !c.isAt '>' then none else some (Token.tag "" (tagPart bytes), c.next)
    else do
      let (handle, c) ← takeHandle c
      let (bytes, c) ← takeTagBytes false c.steps c
      if 1 < handle.length && handle.getLast? = some '!' then
        if bytes.isEmpty then none else some (.tag (String.ofList handle) (tagPart bytes), c)
      else
        let suffix := tagPart (handle.tail.flatMap String.utf8EncodeChar ++ bytes)
        some (if suffix.isEmpty then .tag "" (Tag.ofText "!").bytes else .tag "!" suffix, c)
  if c.blankAhead 0 || (inFlow && c.isAt ',') then some (token, c) else none

/-- The value of a version directive. -/
def takeVersion (c : Cursor) : Option (Token × Cursor) := do
  let (major, c) ← takeNumber (c.skipWhile isBlank)
  if !c.isAt '.' then none
  else
    let (minor, c) ← takeNumber c.next
    some (.versionDirective major minor, c)

/-- The value of a tag directive. -/
def takeTagDirective (c : Cursor) : Option (Token × Cursor) := do
  let (handle, c) ← takeHandle (c.skipWhile isBlank)
  if handle ≠ ['!'] && handle.getLast? ≠ some '!' then none
  else if !c.atBlank then none
  else
    let c := c.skipWhile isBlank
    let (bytes, c) ← takeTagBytes true c.steps c
    if bytes.isEmpty || !c.blankAhead 0 then none
    else some (.tagDirective (String.ofList handle) (tagPart bytes), c)

/-- A directive, to the end of its line. -/
def takeDirective (c : Cursor) : Option (Token × Cursor) := do
  let (name, c) := takeName c.next
  if name.isEmpty || !c.blankAhead 0 then none
  else
    let (token, c) ←
      if name = "YAML".toList then takeVersion c
      else if name = "TAG".toList then takeTagDirective c
      else none
    let c := (c.skipWhile isBlank).skipComment
    if c.endsAhead 0 then some (token, c.nextLine) else none

/-- The name of an anchor or an alias, after its mark. -/
def takeAnchorName (c : Cursor) : Option (String × Cursor) :=
  let (name, c) := takeName c.next
  let ends := c.blankAhead 0 || c.peek?.any fun x => "?:,]\x7d%@`".toList.contains x
  if name.isEmpty || !ends then none else some (String.ofList name, c)

/-! ## Reading the next token -/

/-- Past white space, comments and line breaks. Tabs do not indent; after a line break a key may
start, outside flow collections. -/
def skipGap (inFlow : Bool) : (steps : Nat) → (keyAllowed : Bool) → Cursor → Bool × Cursor
  | 0, keyAllowed, c => (keyAllowed, c)
  | steps + 1, keyAllowed, c =>
    let c := if c.column = 0 && c.isAt '\uFEFF' then c.next else c
    let c := c.skipWhile fun x => x = ' ' || ((inFlow || !keyAllowed) && x = '\t')
    let c := c.skipComment
    if c.atBreak then skipGap inFlow steps (keyAllowed || !inFlow) c.nextLine else (keyAllowed, c)

/-- The end of the text: everything that is open in the block context is closed. -/
def endStream (s : TokenSource) : Option TokenSource := do
  let c := s.cursor
  let s := { s with cursor := if c.column = 0 then c else { c with column := 0, line := c.line + 1 } }
  let s ← (s.closeBlocks (-1)).dropMark
  some ({ s with keyAllowed := false }.push .streamEnd)

/-- A directive or the mark of a document's start or end. -/
def topLevel (s : TokenSource) (token : Token) (c : Cursor) : Option TokenSource := do
  let s ← (s.closeBlocks (-1)).dropMark
  some ({ s with keyAllowed := false, cursor := c }.push token)

/-- A token that may be the start of a key: an alias, an anchor, a tag or a scalar. -/
def keyLike (s : TokenSource) (read : Cursor → Option (Token × Cursor)) : Option TokenSource := do
  let s ← s.saveMark
  let (token, c) ← read s.cursor
  some ({ s with keyAllowed := false, cursor := c }.push token)

/-- The opening mark of a flow collection, which may itself be a key. -/
def openFlow (s : TokenSource) (token : Token) : Option TokenSource := do
  let s ← s.saveMark
  some ({ s with
    outerMarks := s.mark :: s.outerMarks
    mark := none
    keyAllowed := true
    cursor := s.cursor.next }.push token)

/-- The closing mark of a flow collection. -/
def closeFlow (s : TokenSource) (token : Token) : Option TokenSource := do
  let s ← s.dropMark
  let s :=
    match s.outerMarks with
    | [] => s
    | mark :: outer => { s with mark := mark, outerMarks := outer }
  some ({ s with keyAllowed := false, cursor := s.cursor.next }.push token)

/-- The comma of a flow collection. -/
def flowComma (s : TokenSource) : Option TokenSource := do
  let s ← s.dropMark
  some ({ s with keyAllowed := true, cursor := s.cursor.next }.push .flowEntry)

/-- The dash of a block sequence's item. -/
def blockDash (s : TokenSource) : Option TokenSource := do
  if !s.inFlow && !s.keyAllowed then none
  else
    let s ← (s.openBlock s.cursor.column none .blockSequenceStart).dropMark
    some ({ s with keyAllowed := true, cursor := s.cursor.next }.push .blockEntry)

/-- The question mark of a key. -/
def keyMark (s : TokenSource) : Option TokenSource := do
  if !s.inFlow && !s.keyAllowed then none
  else
    let s ← (s.openBlock s.cursor.column none .blockMappingStart).dropMark
    some ({ s with keyAllowed := !s.inFlow, cursor := s.cursor.next }.push .key)

/-- The colon of a value, after a key that was marked or a key of any other form. -/
def valueMark (s : TokenSource) : Option TokenSource :=
  match s.mark with
  | some mark =>
    let s := (s.insert mark.token .key).openBlock mark.column (some mark.token) .blockMappingStart
    some ({ s with mark := none, keyAllowed := false, cursor := s.cursor.next }.push .value)
  | none =>
    if !s.inFlow && !s.keyAllowed then none
    else
      let s := s.openBlock s.cursor.column none .blockMappingStart
      some ({ s with keyAllowed := !s.inFlow, cursor := s.cursor.next }.push .value)

/-- A block scalar after its mark. A key may follow it. -/
def blockScalar (s : TokenSource) (folded : Bool) : Option TokenSource := do
  let s ← s.dropMark
  let (text, c) ← blockText folded s.indent s.cursor.next
  let style := if folded then ScalarStyle.folded else .literal
  some ({ s with keyAllowed := true, cursor := c }.push (.scalar (String.ofList text) style))

/-- A quoted scalar. -/
def readQuoted (single : Bool) (c : Cursor) : Option (Token × Cursor) := do
  let (text, c) ← quotedText single c.steps [] c.next
  some (.scalar (String.ofList text) (if single then .singleQuoted else .doubleQuoted), c)

/-- A plain scalar. A key may follow it if it ended with a line. -/
def plainScalar (s : TokenSource) : Option TokenSource := do
  let s ← s.saveMark
  let c := s.cursor
  let (text, lineEnded, c) ← plainText s.inFlow (s.indent + 1).toNat c.steps [] Gap.none c
  some ({ s with keyAllowed := lineEnded, cursor := c }.push (.scalar (String.ofList text) .plain))

/-- A plain scalar may start at the character in front. -/
def plainStarts (s : TokenSource) (x : Char) : Bool :=
  !(isBlank x || isBreak x || "-?:,[]\x7b\x7d#&*!|>'\"%@`".toList.contains x) ||
    (x = '-' && !(s.cursor.ahead? 1).any isBlank) ||
    (!s.inFlow && (x = '?' || x = ':') && !s.cursor.blankAhead 1)

/-- Reads a token that starts at the character `x` in front. -/
def readAt (s : TokenSource) (x : Char) : Option TokenSource :=
  let c := s.cursor
  if c.column = 0 && x = '%' then do
    let s ← (s.closeBlocks (-1)).dropMark
    let (token, c) ← takeDirective c
    some ({ s with keyAllowed := false, cursor := c }.push token)
  else if c.atMark '-' then s.topLevel .documentStart (c.skip 3)
  else if c.atMark '.' then s.topLevel .documentEnd (c.skip 3)
  else if x = '[' then s.openFlow .flowSequenceStart
  else if x = '{' then s.openFlow .flowMappingStart
  else if x = ']' then s.closeFlow .flowSequenceEnd
  else if x = '}' then s.closeFlow .flowMappingEnd
  else if x = ',' then s.flowComma
  else if x = '-' && c.blankAhead 1 then s.blockDash
  else if x = '?' && (s.inFlow || c.blankAhead 1) then s.keyMark
  else if x = ':' && (s.inFlow || c.blankAhead 1) then s.valueMark
  else if x = '*' then s.keyLike fun c => (takeAnchorName c).map fun (name, c) => (.alias name, c)
  else if x = '&' then s.keyLike fun c => (takeAnchorName c).map fun (name, c) => (.anchor name, c)
  else if x = '!' then s.keyLike (takeTag s.inFlow)
  else if x = '|' && !s.inFlow then s.blockScalar false
  else if x = '>' && !s.inFlow then s.blockScalar true
  else if x = '\'' then s.keyLike (readQuoted true)
  else if x = '"' then s.keyLike (readQuoted false)
  else if s.plainStarts x then s.plainScalar
  else none

/-- Reads on by one token, and the limits of block collections before it. -/
def readOn (s : TokenSource) : Option TokenSource :=
  if !s.started then some ({ s with started := true, keyAllowed := true }.push .streamStart)
  else do
    let (keyAllowed, cursor) := skipGap s.inFlow s.cursor.steps s.keyAllowed s.cursor
    let s ← { s with keyAllowed, cursor }.dropStale
    let s := s.closeBlocks s.cursor.column
    match s.cursor.peek? with
    | none => s.endStream
    | some x => s.readAt x

/-- The first waiting token may still turn out to be the start of a key. -/
def undecided (s : TokenSource) : Bool :=
  (s.mark :: s.outerMarks).any fun mark => mark.any fun m => m.token = s.given

/-- Reads on until the first waiting token is decided. -/
def fill : (steps : Nat) → TokenSource → Option TokenSource
  | 0, _ => none
  | steps + 1, s =>
    if s.waiting.isEmpty then s.readOn.bind (fill steps)
    else do
      let s ← s.dropStale
      if s.undecided then s.readOn.bind (fill steps) else some s

/-- The next token, which stays in front. -/
def peek (s : TokenSource) : Option (Token × TokenSource) := do
  let s ← fill (s.cursor.steps + 2) s
  let token ← s.waiting.head?
  some (token, s)

/-- Past the token in front. -/
def next (s : TokenSource) : TokenSource :=
  { s with waiting := s.waiting.tail, given := s.given + 1 }

end TokenSource
end CmdletForge.Yaml
