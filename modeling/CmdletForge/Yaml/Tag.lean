import CmdletForge.Yaml.ScalarText

/-!
# YAML tags

A tag is a list of bytes. A character of a tag stands for its bytes in UTF-8, and any byte may be
written as a percent sign and two digits. Bytes written so come in groups shaped like a character,
but no more is asked of them: a tag need not spell a text.

A tag that opens with an exclamation mark is one of its own, and what follows the mark names it.
-/

namespace CmdletForge.Yaml

/-! ## Tags in full -/

/-- A tag in full. -/
structure Tag where
  bytes : List UInt8
deriving DecidableEq

namespace Tag

/-- The tag that a text spells. -/
def ofText (text : String) : Tag := ⟨text.toList.flatMap String.utf8EncodeChar⟩

/-- A tag of the standard. -/
def standard (name : String) : Tag := ofText ("tag:yaml.org,2002:" ++ name)

/-- The tag opens with the mark of a tag of its own. -/
def isOwn (tag : Tag) : Bool := tag.bytes.head? = some 0x21

/-- The name of a tag of its own. The mark alone is its own name, and bytes that spell no text are
none. -/
def ownName? (tag : Tag) : Option String :=
  if tag.isOwn then
    let named := if tag.bytes.length = 1 then tag.bytes else tag.bytes.tail
    String.fromUTF8? named.toByteArray
  else none

end Tag

/-! ## Tags as they are written -/

/-- A character of a tag; `verbatim` between angle brackets. -/
def isTagChar (verbatim : Bool) (c : Char) : Bool :=
  isNameChar c || ";/?:@&=+$.%!~*'()".toList.contains c || (verbatim && ",[]".toList.contains c)

/-- The escaped byte in front. -/
def escapedByte? : List Char → Option UInt8
  | '%' :: a :: b :: _ => do some (UInt8.ofNat ((← hexDigit? a) * 16 + (← hexDigit? b)))
  | _ => none

/-- How many bytes follow the first one in the encoding of a character. -/
def followers? (first : UInt8) : Option Nat :=
  if first < 0x80 then some 0
  else if first < 0xC0 then none
  else if first < 0xE0 then some 1
  else if first < 0xF0 then some 2
  else if first < 0xF8 then some 3
  else none

/-- So many escaped bytes that continue a character. -/
def takeFollowers : (count : Nat) → Cursor → Option (List UInt8 × Cursor)
  | 0, c => some ([], c)
  | count + 1, c => do
    let byte ← escapedByte? c.rest
    if byte < 0x80 || 0xC0 ≤ byte then none
    else
      let (bytes, c) ← takeFollowers count (c.skip 3)
      some (byte :: bytes, c)

/-- Escaped bytes shaped like one character. -/
def takeEscaped (c : Cursor) : Option (List UInt8 × Cursor) := do
  let first ← escapedByte? c.rest
  let (bytes, c) ← takeFollowers (← followers? first) (c.skip 3)
  some (first :: bytes, c)

/-- The bytes of the tag characters in front. -/
def takeTagBytes (verbatim : Bool) : (steps : Nat) → Cursor → Option (List UInt8 × Cursor)
  | 0, _ => none
  | steps + 1, c =>
    match c.peek? with
    | none => some ([], c)
    | some x =>
      if x = '%' then do
        let (bytes, c) ← takeEscaped c
        let (more, c) ← takeTagBytes verbatim steps c
        some (bytes ++ more, c)
      else if isTagChar verbatim x then do
        let (more, c) ← takeTagBytes verbatim steps c.next
        some (String.utf8EncodeChar x ++ more, c)
      else some ([], c)

/-- The part of a tag that bytes spell: it ends before a zero byte. -/
def tagPart (bytes : List UInt8) : List UInt8 := bytes.takeWhile (· ≠ 0)

end CmdletForge.Yaml
