import CmdletForge.Decimal.Shortest

/-!
# How a double is written

Notations of the shortest decimal. Data is written positionally while the leading digit stands
between the fifth place after the point and the sixteenth before it, and with an exponent beyond.
`messageText` is always positional. All keep a digit on either side of the point.
-/

namespace CmdletForge.Decimal

/-- `n` zeros. -/
def zeros (n : Nat) : String := String.ofList (List.replicate n '0')

/-- The decimal without an exponent, with at least one digit on either side of the point. -/
def positional (d : Decimal) : String :=
  let digits := Nat.toDigits 10 d.digits
  let whole := (digits.length : Int) + d.exponent
  if whole ≤ 0 then "0." ++ zeros (-whole).toNat ++ String.ofList digits
  else if 0 ≤ d.exponent then String.ofList digits ++ zeros d.exponent.toNat ++ ".0"
  else String.ofList (digits.take whole.toNat) ++ "." ++ String.ofList (digits.drop whole.toNat)

/-- The decimal with one digit before the point and an exponent, `raised` standing before one that
is not negative. -/
def scientific (raised : String) (d : Decimal) : String :=
  let digits := Nat.toDigits 10 d.digits
  let place := d.exponent + digits.length - 1
  let fraction := if digits.length ≤ 1 then "" else "." ++ String.ofList (digits.drop 1)
  String.ofList (digits.take 1) ++ fraction ++ (if place < 0 then "e-" else raised) ++
    toString place.natAbs

/-- Positional up to sixteen places before the point and five after it, scientific beyond. -/
def adaptive (raised : String) (d : Decimal) : String :=
  let place := d.exponent + (Nat.toDigits 10 d.digits).length - 1
  if -5 ≤ place ∧ place ≤ 15 then d.positional else d.scientific raised

/-- A finite double in the notation `write`, sign in front; zero keeps its sign. -/
def signed (write : Decimal → String) (x : Float) : String :=
  let bits := x.toBits.toNat
  (if Nat.pow 2 63 ≤ bits then "-" else "") ++ write (Binary.ofBits (bits % Nat.pow 2 63)).shortest

/-- A finite double as data is written. -/
def dataText (x : Float) : String := signed (adaptive "e+") x

/-- A double as a key of a configuration file is quoted: no sign on a raised exponent, and names
for the values that are not finite. -/
def keyText (x : Float) : String :=
  if x.isNaN then ".nan"
  else if x.isInf then (if x < 0 then "-.inf" else ".inf")
  else signed (adaptive "e") x

/-- A double as messages quote it that know no exponents. -/
def messageText (x : Float) : String :=
  if x.isNaN then "NaN"
  else if x.isInf then (if x < 0 then "-inf" else "inf")
  else signed positional x

end CmdletForge.Decimal
