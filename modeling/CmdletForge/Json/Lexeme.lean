import CmdletForge.Data.Mismatch

/-!
# The lexemes of JSON

Readers for strings, words and numbers, each taking the text from where it stands and leaving the
rest. A text that ends too early is told from one that is wrong, since which of the two is met
first decides how reading fails.

A number without fraction and exponent that fits 64 bits is an integer. Any other number is the
product or quotient of its leading digits, as many as fit 64 bits, and a power of ten, in double
arithmetic; one too large for a double is an error.
-/

namespace CmdletForge.Json

/-- Why a text cannot be read. -/
inductive ReadError where
  | malformed
  | truncated
  | mismatch (m : Mismatch)

/-- The words of JSON: doubles are written as in data. -/
def wording : Wording := ⟨"null", Decimal.dataText⟩

/-- A reader takes characters from the front of a text. -/
abbrev Reader (α : Type) := StateT (List Char) (Except ReadError) α

/-- The white space of JSON. -/
def isSpace (c : Char) : Bool := c = ' ' || c = '\n' || c = '\t' || c = '\r'

/-- The next character that is not white space, which stays in front. -/
def peek? : Reader (Option Char) := fun cs =>
  let rest := cs.dropWhile isSpace
  .ok (rest.head?, rest)

/-- The next character that is not white space; there must be one. -/
def peek : Reader Char := do
  match ← peek? with
  | some c => pure c
  | none => throw .truncated

/-- Drops the character in front. -/
def advance : Reader Unit := modify List.tail

/-- The letters of a word, which must all be in front. -/
def readWord : List Char → Reader Unit
  | [], cs => .ok ((), cs)
  | _ :: _, [] => .error .truncated
  | w :: ws, c :: cs => if c = w then readWord ws cs else .error .malformed

/-- The value of a hexadecimal digit. -/
def hexValue? (c : Char) : Option Nat :=
  if '0' ≤ c ∧ c ≤ '9' then some (c.toNat - '0'.toNat)
  else if 'a' ≤ c ∧ c ≤ 'f' then some (c.toNat - 'a'.toNat + 10)
  else if 'A' ≤ c ∧ c ≤ 'F' then some (c.toNat - 'A'.toNat + 10)
  else none

/-- The value of four hexadecimal digits. -/
def unit16? (a b c d : Char) : Option Nat := do
  some (((← hexValue? a) * 16 + (← hexValue? b)) * 256 + (← hexValue? c) * 16 + (← hexValue? d))

/-- How a text with fewer than four characters fails where four digits are due: it ends too early
unless it still has four bytes. -/
def shortOfDigits (cs : List Char) : ReadError :=
  if cs.foldl (fun count c => count + c.utf8Size) 0 < 4 then .truncated else .malformed

/-- The character of a one-letter escape. -/
def escaped? (c : Char) : Option Char :=
  match c with
  | '"' => some '"'
  | '\\' => some '\\'
  | '/' => some '/'
  | 'b' => some '\x08'
  | 'f' => some '\x0c'
  | 'n' => some '\n'
  | 'r' => some '\r'
  | 't' => some '\t'
  | _ => none

/-- `c` in front of the characters read. -/
def onto (c : Char) : Except ReadError (List Char × List Char) → Except ReadError (List Char × List Char)
  | .ok (text, rest) => .ok (c :: text, rest)
  | .error e => .error e

/-- The characters up to the closing quote, escapes undone. A character beyond U+FFFF is escaped
as a leading and a trailing surrogate, which stand alone nowhere. -/
def readText : Reader (List Char)
  | [] => .error .truncated
  | '"' :: rest => .ok ([], rest)
  | ['\\'] => .error .truncated
  | '\\' :: 'u' :: a :: b :: c :: d :: rest =>
    match unit16? a b c d with
    | none => .error .malformed
    | some n =>
      if n < 0xD800 ∨ 0xE000 ≤ n then onto (Char.ofNat n) (readText rest)
      else if 0xDC00 ≤ n then .error .malformed
      else
        match rest with
        | '\\' :: 'u' :: e :: f :: g :: h :: rest =>
          match unit16? e f g h with
          | none => .error .malformed
          | some m =>
            if 0xDC00 ≤ m ∧ m < 0xE000 then
              onto (Char.ofNat (0x10000 + (n - 0xD800) * 0x400 + (m - 0xDC00))) (readText rest)
            else .error .malformed
        | '\\' :: 'u' :: rest => .error (shortOfDigits rest)
        | [] => .error .truncated
        | ['\\'] => .error .truncated
        | _ => .error .malformed
  | '\\' :: 'u' :: rest => .error (shortOfDigits rest)
  | '\\' :: c :: rest =>
    match escaped? c with
    | some c => onto c (readText rest)
    | none => .error .malformed
  | c :: rest => if c.toNat < 0x20 then .error .malformed else onto c (readText rest)

/-- Passes over a string up to its closing quote: surrogates are not looked at. -/
def skipText : Reader Unit
  | [] => .error .truncated
  | '"' :: rest => .ok ((), rest)
  | ['\\'] => .error .truncated
  | '\\' :: 'u' :: a :: b :: c :: d :: rest =>
    if (unit16? a b c d).isSome then skipText rest else .error .malformed
  | '\\' :: 'u' :: rest => .error (shortOfDigits rest)
  | '\\' :: c :: rest => if (escaped? c).isSome then skipText rest else .error .malformed
  | c :: rest => if c.toNat < 0x20 then .error .malformed else skipText rest

/-- The value of a decimal digit. -/
def digit? (c : Char) : Option Nat := if c.isDigit then some (c.toNat - '0'.toNat) else none

/-- Digits added to `value` as long as it fits 64 bits, and how many. -/
def takeDigits (value count : Nat) : List Char → Nat × Nat × List Char
  | [] => (value, count, [])
  | c :: cs =>
    match digit? c with
    | some d =>
      if value * 10 + d < Nat.pow 2 64 then takeDigits (value * 10 + d) (count + 1) cs
      else (value, count, c :: cs)
    | none => (value, count, c :: cs)

/-- A digit is in front. -/
def digitAhead (cs : List Char) : Bool := cs.head?.any Char.isDigit

/-- `significand * 10 ^ exponent` in double arithmetic, none when it is too large. A double holds
powers of ten up to 308, so a smaller exponent is divided away in steps. -/
def scaled (exponent : Int) : (steps : Nat) → Float → Option Float
  | steps, x =>
    if exponent.natAbs ≤ 308 then
      if 0 ≤ exponent then
        let y := x * Float.ofScientific 1 false exponent.natAbs
        if y.isInf then none else some y
      else some (x / Float.ofScientific 1 false exponent.natAbs)
    else if x == 0 then some x
    else if 0 ≤ exponent then none
    else
      match steps with
      | 0 => some 0
      | steps + 1 => scaled (exponent + 308) steps (x / Float.ofScientific 1 false 308)

/-- The double of a sign, a significand and an exponent. -/
def doubleOf (negative : Bool) (significand : Nat) (exponent : Int) : Except ReadError Number :=
  match scaled exponent 4 significand.toUInt64.toFloat with
  | some x => .ok (.float (if negative then -x else x))
  | none => .error .malformed

/-- The exponent after its mark. Beyond 32 bits it makes any number but zero too large or zero. -/
def readExponent (negative : Bool) (significand : Nat) (exponent : Int) : Reader Number := fun cs => do
  let (lowered, cs) :=
    match cs with
    | '+' :: rest => (false, rest)
    | '-' :: rest => (true, rest)
    | _ => (false, cs)
  match cs with
  | [] => .error .truncated
  | c :: _ =>
    if c.isDigit then
      let digits := cs.takeWhile Char.isDigit
      let power := digits.foldl (fun n d => n * 10 + (d.toNat - '0'.toNat)) 0
      let rest := cs.dropWhile Char.isDigit
      if power < Nat.pow 2 31 then
        let number ← doubleOf negative significand (if lowered then exponent - power else exponent + power)
        .ok (number, rest)
      else if significand ≠ 0 ∧ ¬ lowered then .error .malformed
      else .ok (.float (if negative then -0.0 else 0.0), rest)
    else .error .malformed

/-- What may follow the digits of a double: an exponent. -/
def readScale (negative : Bool) (significand : Nat) (exponent : Int) : Reader Number := fun cs =>
  match cs with
  | 'e' :: rest => readExponent negative significand exponent rest
  | 'E' :: rest => readExponent negative significand exponent rest
  | _ => do .ok (← doubleOf negative significand exponent, cs)

/-- The fraction after its point. -/
def readFraction (negative : Bool) (significand : Nat) (exponent : Int) : Reader Number := fun cs =>
  let (significand, count, rest) := takeDigits significand 0 cs
  if digitAhead rest then
    readScale negative significand (exponent - count) (rest.dropWhile Char.isDigit)
  else if count = 0 then .error (if rest.isEmpty then .truncated else .malformed)
  else readScale negative significand (exponent - count) rest

/-- A number after its sign. -/
def readNumber (negative : Bool) : Reader Number := fun cs =>
  match cs with
  | [] => .error .truncated
  | '0' :: rest => if digitAhead rest then .error .malformed else after 0 0 rest
  | c :: _ =>
    if c.isDigit then
      let (significand, _, rest) := takeDigits 0 0 cs
      let beyond := rest.takeWhile Char.isDigit
      after significand beyond.length (rest.dropWhile Char.isDigit)
    else .error .malformed
where
  /-- What follows the whole part, of which `beyond` digits did not fit the significand. -/
  after (significand beyond : Nat) : Reader Number := fun cs =>
    match cs with
    | '.' :: rest => readFraction negative significand beyond rest
    | 'e' :: rest => readExponent negative significand beyond rest
    | 'E' :: rest => readExponent negative significand beyond rest
    | _ =>
      if beyond = 0 then
        if ¬ negative then .ok (.int significand, cs)
        else if significand = 0 ∨ Nat.pow 2 63 < significand then
          .ok (.float (-significand.toUInt64.toFloat), cs)
        else .ok (.int (-significand), cs)
      else do .ok (← doubleOf negative significand beyond, cs)

/-- Passes over an exponent after its mark. -/
def skipExponent : Reader Unit := fun cs =>
  let cs :=
    match cs with
    | '+' :: rest => rest
    | '-' :: rest => rest
    | _ => cs
  if digitAhead cs then .ok ((), cs.dropWhile Char.isDigit) else .error .malformed

/-- Passes over a number after its sign; its size does not matter. -/
def skipNumber : Reader Unit := fun cs =>
  match cs with
  | '0' :: rest => if digitAhead rest then .error .malformed else after rest
  | _ => if digitAhead cs then after (cs.dropWhile Char.isDigit) else .error .malformed
where
  /-- What follows the whole part. -/
  after : Reader Unit := fun cs =>
    match cs with
    | '.' :: rest =>
      if digitAhead rest then
        match rest.dropWhile Char.isDigit with
        | 'e' :: rest => skipExponent rest
        | 'E' :: rest => skipExponent rest
        | rest => .ok ((), rest)
      else .error .malformed
    | 'e' :: rest => skipExponent rest
    | 'E' :: rest => skipExponent rest
    | _ => .ok ((), cs)

end CmdletForge.Json
