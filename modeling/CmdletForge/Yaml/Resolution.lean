import CmdletForge.Data.Mismatch
import CmdletForge.Yaml.Tag

/-!
# What a scalar is

A plain scalar is null, a truth value, an integer, a float or else a text; a scalar of any other
style is a text. A tag of the standard asks for one kind, whatever the style; a tag of its own
leaves a plain scalar what it is; any other tag makes it a text.

An integer is decimal, or hexadecimal, octal or binary after `0x`, `0o` or `0b`. It may take up to
64 bits, and is `wide` up to 128. Decimal digits after a leading zero are a text. A float that is
too large for a double is a text as well. A zero with a minus sign is a number of its own kind.
-/

namespace CmdletForge.Yaml

/-- The spellings of null, apart from nothing at all. -/
def isNullText (text : String) : Bool := text ∈ ["null", "Null", "NULL", "~"]

/-- The spellings of truth values. -/
def boolOf? (text : String) : Option Bool :=
  if text ∈ ["true", "True", "TRUE"] then some true
  else if text ∈ ["false", "False", "FALSE"] then some false
  else none

/-! ## Integers -/

/-- A number in some base; there must be a digit. -/
def magnitudeOf? (base : Nat) (digits : List Char) : Option Nat :=
  if digits.isEmpty then none
  else digits.foldlM (fun n c => do
    let d ← hexDigit? c
    if d < base then some (n * base + d) else none) 0

/-- Digits after a leading zero. -/
def isPadded : List Char → Bool
  | '0' :: rest => !rest.isEmpty && rest.all Char.isDigit
  | _ => false

/-- An integer without its sign. -/
def unsignedOf? : List Char → Option Nat
  | '0' :: 'x' :: rest => magnitudeOf? 16 rest
  | '0' :: 'o' :: rest => magnitudeOf? 8 rest
  | '0' :: 'b' :: rest => magnitudeOf? 2 rest
  | digits => if isPadded digits || !digits.all Char.isDigit then none else magnitudeOf? 10 digits

/-- A sign, and what follows it. -/
def takeSign : List Char → Bool × List Char
  | '+' :: rest => (false, rest)
  | '-' :: rest => (true, rest)
  | text => (false, text)

/-- The integer that a text spells, of at most 128 bits. -/
def intOf? (text : String) : Option Found := do
  let (negative, digits) := takeSign text.toList
  let n ← unsignedOf? digits
  if negative then
    if n = 0 then some .minusZero
    else if n ≤ Nat.pow 2 63 then some (.int (-n)) else if n ≤ Nat.pow 2 127 then some (.wide (-n)) else none
  else if n < Nat.pow 2 64 then some (.int n)
  else if n < Nat.pow 2 128 then some (.wide n)
  else none

/-! ## Floats -/

/-- A decimal number without sign: digits with at most one point, and an exponent. -/
structure DecimalText where
  digits : List Char
  exponent : Int

/-- The exponent of a decimal number, after its mark. -/
def exponentOf? (text : List Char) : Option Int := do
  let (negative, digits) := takeSign text
  if digits.all Char.isDigit then
    let n ← magnitudeOf? 10 digits
    some (if negative then -n else n)
  else none

/-- Reads a decimal number. -/
def decimalOf? (text : List Char) : Option DecimalText := do
  let whole := text.takeWhile Char.isDigit
  let rest := text.dropWhile Char.isDigit
  let (fraction, rest) := match rest with
    | '.' :: rest => (rest.takeWhile Char.isDigit, rest.dropWhile Char.isDigit)
    | rest => ([], rest)
  if whole.isEmpty && fraction.isEmpty then none
  else
    let exponent ← match rest with
      | [] => some 0
      | 'e' :: rest => exponentOf? rest
      | 'E' :: rest => exponentOf? rest
      | _ => none
    some ⟨whole ++ fraction, exponent - fraction.length⟩

/-- The double nearest to a decimal number, if it is finite. Far beyond the range of doubles the
number is not computed. -/
def DecimalText.toFloat? (d : DecimalText) : Option Float :=
  let digits := d.digits.dropWhile (· = '0')
  let magnitude := digits.length + d.exponent
  if digits.isEmpty || magnitude < -400 then some 0.0
  else if 400 < magnitude then none
  else
    let n := digits.foldl (fun n c => n * 10 + (c.toNat - '0'.toNat)) 0
    let x := Float.ofScientific n (d.exponent < 0) d.exponent.natAbs
    if x.isFinite then some x else none

/-- The float that a text spells. -/
def floatOf? (text : String) : Option Float :=
  let (negative, digits) := takeSign text.toList
  if String.ofList digits ∈ [".inf", ".Inf", ".INF"] then some (if negative then -1.0 / 0.0 else 1.0 / 0.0)
  else if text ∈ [".nan", ".NaN", ".NAN"] then some (0.0 / 0.0)
  else do
    let x ← (← decimalOf? digits).toFloat?
    some (if negative then -x else x)

/-! ## Scalars -/

/-- What a plain scalar is, whatever its tag. -/
def plainKind (text : String) : Found :=
  if text.isEmpty || isNullText text then .unit
  else
    match boolOf? text with
    | some b => .bool b
    | none =>
      match intOf? text with
      | some n => n
      | none =>
        if isPadded (takeSign text.toList).2 then .text text
        else
          match floatOf? text with
          | some x => .float x
          | none => .text text

/-- What a scalar is by how it is written, if no tag says more. -/
def writtenKind (text : String) (style : ScalarStyle) : Found :=
  if style = .plain then plainKind text else .text text

/-- What a scalar with a tag is; without one its style decides. -/
def scalarKind (tag : Option Tag) (text : String) (style : ScalarStyle) : Except Mismatch Found :=
  let wanted (found : Option Found) (expected : String) : Except Mismatch Found :=
    match found with
    | some found => .ok found
    | none => .error (.invalidValue (.text text) expected)
  match tag with
  | none => .ok (writtenKind text style)
  | some tag =>
    if tag = .standard "bool" then wanted ((boolOf? text).map .bool) "a boolean"
    else if tag = .standard "int" then wanted (intOf? text) "an integer"
    else if tag = .standard "float" then wanted ((floatOf? text).map .float) "a float"
    else if tag = .standard "null" then wanted (if isNullText text then some .unit else none) "null"
    else if tag.isOwn then .ok (writtenKind text style)
    else .ok (.text text)

end CmdletForge.Yaml
