/-!
# Places in a YAML text

A cursor is the rest of a text and where it starts. A line ends with a carriage return, a line
feed, both in this order, or one of the breaks U+0085, U+2028 and U+2029.
-/

namespace CmdletForge.Yaml

/-- The rest of a text, with the number of bytes, lines and columns before it. A column is a
character, of however many bytes. -/
structure Cursor where
  rest : List Char
  offset : Nat
  line : Nat
  column : Nat

/-- A character that ends a line. -/
def isBreak (c : Char) : Bool :=
  c = '\r' || c = '\n' || c = '\x85' || c = '\u2028' || c = '\u2029'

/-- A space or a tab. -/
def isBlank (c : Char) : Bool := c = ' ' || c = '\t'

/-- A letter, digit, dash or underscore of ASCII: what names are made of. -/
def isNameChar (c : Char) : Bool := c.isAlphanum || c = '-' || c = '_'

/-- Characters that may stand in a YAML text. -/
def isAllowed (c : Char) : Bool :=
  let code := c.toNat
  c = '\t' || c = '\n' || c = '\r' || (0x20 ≤ code && code ≤ 0x7E) || code = 0x85 ||
    (0xA0 ≤ code && code ≤ 0xFFFD) || 0x10000 ≤ code

/-- How many bytes characters take in UTF-8. -/
def byteCount (cs : List Char) : Nat := cs.foldl (fun count c => count + c.utf8Size) 0

namespace Cursor

/-- The start of a text. -/
def start (text : List Char) : Cursor := ⟨text, 0, 0, 0⟩

/-- The character in front. -/
def peek? (c : Cursor) : Option Char := c.rest.head?

/-- The character `k` places ahead. -/
def ahead? (c : Cursor) (k : Nat) : Option Char := c.rest[k]?

/-- The character in front is `x`. -/
def isAt (c : Cursor) (x : Char) : Bool := c.peek? == some x

/-- The text is at its end. -/
def atEnd (c : Cursor) : Bool := c.rest.isEmpty

/-- A space or tab is in front. -/
def atBlank (c : Cursor) : Bool := c.peek?.any isBlank

/-- A line break is in front. -/
def atBreak (c : Cursor) : Bool := c.peek?.any isBreak

/-- The line or the text ends `k` places ahead. -/
def endsAhead (c : Cursor) (k : Nat) : Bool := (c.ahead? k).all isBreak

/-- White space or the end is `k` places ahead. -/
def blankAhead (c : Cursor) (k : Nat) : Bool := (c.ahead? k).all fun x => isBlank x || isBreak x

/-- Past `k` characters. -/
def skip (c : Cursor) (k : Nat) : Cursor :=
  ⟨c.rest.drop k, c.offset + byteCount (c.rest.take k), c.line, c.column + k⟩

/-- Past the character in front. -/
def next (c : Cursor) : Cursor := c.skip 1

/-- Past the characters of a class. -/
def skipWhile (c : Cursor) (p : Char → Bool) : Cursor := c.skip (c.rest.takeWhile p).length

/-- Past the line break in front. -/
def nextLine (c : Cursor) : Cursor :=
  match c.rest with
  | '\r' :: '\n' :: rest => ⟨rest, c.offset + 2, c.line + 1, 0⟩
  | x :: rest => ⟨rest, c.offset + x.utf8Size, c.line + 1, 0⟩
  | [] => c

/-- What the line break in front contributes to a scalar: the breaks of ASCII and U+0085 are all
one line feed, the others stand as they are. -/
def breakText (c : Cursor) : List Char :=
  match c.peek? with
  | some '\u2028' => ['\u2028']
  | some '\u2029' => ['\u2029']
  | some x => if isBreak x then ['\n'] else []
  | none => []

/-- A line of three `x`, and white space after them: the mark of a document's start or end. -/
def atMark (c : Cursor) (x : Char) : Bool :=
  c.column = 0 && c.rest.take 3 == [x, x, x] && c.blankAhead 3

/-- The start or the end of a document is marked here. -/
def atDocumentMark (c : Cursor) : Bool := c.atMark '-' || c.atMark '.'

/-- To the end of the line, over a comment. -/
def skipComment (c : Cursor) : Cursor :=
  if c.isAt '#' then c.skipWhile fun x => !isBreak x else c

/-- Enough steps to meet every character left. -/
def steps (c : Cursor) : Nat := c.rest.length + 1

end Cursor
end CmdletForge.Yaml
