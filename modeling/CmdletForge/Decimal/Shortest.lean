/-!
# The shortest decimal that reads back

A finite positive double is `mantissa * 2 ^ exponent`. The reals that round to it form an interval
around it, ends included when the mantissa is even. `shortest` finds the decimal with the fewest
digits in that interval, and among those the one nearest to the value; of two equally near ones
the even one.
-/

namespace CmdletForge

/-- The number `digits * 10 ^ exponent`. -/
structure Decimal where
  digits : Nat
  exponent : Int
deriving Repr, DecidableEq

namespace Decimal

/-- The parts of a finite double: `mantissa * 2 ^ exponent`. -/
structure Binary where
  mantissa : Nat
  exponent : Int
deriving Repr, DecidableEq

/-- The parts of the finite double with these bits, sign left out. -/
def Binary.ofBits (bits : Nat) : Binary :=
  let fraction : Nat := bits % Nat.pow 2 52
  let biased : Nat := bits / Nat.pow 2 52 % Nat.pow 2 11
  if biased = 0 then ⟨fraction, -1074⟩ else ⟨Nat.pow 2 52 + fraction, (biased : Int) - 1075⟩

/-- The reals that round to a double, over one denominator. -/
structure Interval where
  low : Nat
  value : Nat
  high : Nat
  denominator : Nat
  closed : Bool

/-- The gap below the smallest mantissa of a binade is half as wide as the one above. -/
def Binary.interval (b : Binary) : Interval :=
  let below := if b.mantissa = Nat.pow 2 52 ∧ -1074 < b.exponent then 1 else 2
  let up := Nat.pow 2 (b.exponent - 2).toNat
  ⟨(4 * b.mantissa - below) * up, 4 * b.mantissa * up, (4 * b.mantissa + 2) * up,
    Nat.pow 2 (2 - b.exponent).toNat, b.mantissa % 2 = 0⟩

/-- `count * 10 ^ place` lies in the interval. -/
def Interval.holds (i : Interval) (count : Nat) (place : Int) : Bool :=
  let here := count * Nat.pow 10 place.toNat * i.denominator
  let down := Nat.pow 10 (-place).toNat
  if i.closed then i.low * down ≤ here && here ≤ i.high * down
  else i.low * down < here && here < i.high * down

/-- Multiples of `10 ^ place` around the value: the one below and whether the next one is nearer
or as near and even. -/
def Interval.around (i : Interval) (place : Int) : Nat × Bool :=
  let numerator := i.value * Nat.pow 10 (-place).toNat
  let denominator := i.denominator * Nat.pow 10 place.toNat
  let count := numerator / denominator
  let twice := 2 * (numerator % denominator)
  (count, denominator < twice || (twice = denominator && count % 2 = 1))

/-- The multiple of `10 ^ place` in the interval that is nearest to the value. -/
def Interval.nearest? (i : Interval) (place : Int) : Option Nat :=
  let (count, up) := i.around place
  let first := if up then count + 1 else count
  let second := if up then count else count + 1
  if i.holds first place then some first
  else if i.holds second place then some second
  else none

/-- The place of the leading digit: the value is at least `10` to that power and below the next.
Doubles exceed `10 ^ (-400)`. -/
def Interval.leadingPlace (i : Interval) : Int :=
  ((Nat.toDigits 10 (i.value * Nat.pow 10 400 / i.denominator)).length : Int) - 401

/-- The first grid, from `digits` digits on, that has a point in the interval. -/
def Interval.search (i : Interval) (leading : Int) : (more digits : Nat) → Decimal
  | 0, digits => ⟨(i.around (leading - digits + 1)).1, leading - digits + 1⟩
  | more + 1, digits =>
    let place := leading - digits + 1
    match i.nearest? place with
    | some count => ⟨count, place⟩
    | none => i.search leading more (digits + 1)

/-- The same number without zeros at the end of its digits. -/
def stripped (d : Decimal) : (fuel : Nat) → Decimal
  | 0 => d
  | fuel + 1 =>
    if d.digits ≠ 0 ∧ d.digits % 10 = 0 then
      stripped ⟨d.digits / 10, d.exponent + 1⟩ fuel
    else d

/-- The shortest decimal that rounds to `b`. Seventeen digits always suffice. -/
def Binary.shortest (b : Binary) : Decimal :=
  if b.mantissa = 0 then ⟨0, 0⟩
  else (b.interval.search b.interval.leadingPlace 17 1).stripped 20

end Decimal
end CmdletForge
