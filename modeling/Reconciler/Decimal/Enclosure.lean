import Reconciler.Decimal.Basic

/-!
# Decimal points from a 64-bit enclosure

The interval of a binary number is multiplied by a power of ten and enclosed between 64-bit numbers,
one unit inside its ends.  Digits of the upper end are taken until what is left of it fits into the
interval, and the last digit is then lowered towards the number.  The point found always lies in the
interval; since the ends are not exact, it need not be the shortest one, nor the nearest.
-/

namespace Reconciler.Decimal

/-- An approximate number `significand * 2 ^ exponent` of at most 64 bits. -/
structure Approximation where
  significand : Nat
  exponent : Int
deriving DecidableEq, Inhabited

namespace Approximation

/-- The same number with all 64 bits in use. -/
def normalized (a : Approximation) : Approximation :=
  let room := 63 - a.significand.log2
  ⟨a.significand * Nat.pow 2 room, a.exponent - room⟩

/-- The same number at a lower exponent. -/
def lowered (exponent : Int) (a : Approximation) : Approximation :=
  ⟨a.significand * Nat.pow 2 (a.exponent - exponent).toNat, exponent⟩

/-- The upper 64 bits of a product, rounded. -/
def mul (a b : Approximation) : Approximation :=
  ⟨(a.significand * b.significand + Nat.pow 2 63) / Nat.pow 2 64, a.exponent + b.exponent + 64⟩

/-- A power of ten to the nearest 64 bits. -/
def ofPowerOfTen (exponent : Int) : Approximation :=
  let exact := power 10 exponent
  let guess : Int := (exact.numerator.log2 : Int) - exact.denominator.log2 - 64
  let exponent :=
    if ((power 2 guess).scale (Nat.pow 2 64)).le exact then guess + 1 else guess
  let unit := power 2 exponent
  let count := exact.numerator * unit.denominator
  let units := exact.denominator * unit.numerator
  ⟨(2 * count + units) / (2 * units), exponent⟩

end Approximation

/-- The power of ten, out of every eighth one, that brings a 64-bit number of a binary exponent to a
scale with 32 to 60 bits after the point.  The fraction stands for the decimal logarithm of two. -/
def scaleExponent (exponent : Int) : Int :=
  let digits := 347 - (61 + exponent) * 30102999566398114 / 100000000000000000
  8 * (digits / 8 + 1) - 348

/-- An enclosed number, in units of `2 ^ -places` times a power of ten: the upper end of its
interval, how far the number lies below it, and how wide the interval is. -/
structure Enclosure where
  upper : Nat
  gap : Nat
  width : Nat
  places : Nat
  power : Int
deriving DecidableEq, Inhabited

/-- The enclosure of a number. -/
def Binary.enclosure (b : Binary) : Enclosure :=
  let value : Approximation := ⟨b.mantissa, b.exponent⟩
  let upper := Approximation.normalized ⟨2 * b.mantissa + 1, b.exponent - 1⟩
  let lower : Approximation :=
    if b.narrowBelow then ⟨4 * b.mantissa - 1, b.exponent - 2⟩
    else ⟨2 * b.mantissa - 1, b.exponent - 1⟩
  let power := scaleExponent upper.exponent
  let factor := Approximation.ofPowerOfTen power
  let top := (upper.mul factor).significand - 1
  let bottom := ((lower.lowered upper.exponent).mul factor).significand + 1
  { upper := top
    gap := top - (value.normalized.mul factor).significand
    width := top - bottom
    places := (-(upper.mul factor).exponent).toNat
    power := -power }

namespace Enclosure

/-- Lowers the last digit of a point, which lies `rest` below the upper end, while it stays in the
interval and comes nearer to the number. -/
def approach (gap width unit : Nat) : (digits rest : Nat) → Nat
  | 0, _ => 0
  | digits + 1, rest =>
    if rest < gap ∧ rest + unit ≤ width ∧
        (rest + unit < gap ∨ gap - rest > rest + unit - gap) then
      approach gap width unit digits (rest + unit)
    else digits + 1

/-- The point whose last digit stands for `10 ^ place` before the mark, if the interval reaches it
from above. -/
def whole? (e : Enclosure) (place : Nat) : Option Scaled :=
  let unit := Nat.pow 10 place * Nat.pow 2 e.places
  let rest := e.upper % unit
  if rest ≤ e.width then
    some ⟨approach e.gap e.width unit (e.upper / unit) rest, e.power + place⟩
  else none

/-- The point with so many digits after the mark, if the interval reaches it from above.  From nine
digits on it is not brought nearer to the number. -/
def fraction? (e : Enclosure) (place : Nat) : Option Scaled :=
  let unit := Nat.pow 2 e.places
  let scale := Nat.pow 10 place
  let rest := e.upper * scale % unit
  if rest < e.width * scale then
    let gap := if place < 9 then e.gap * scale else 0
    some ⟨approach gap (e.width * scale) unit (e.upper * scale / unit) rest, e.power - place⟩
  else none

/-- The first point that the interval reaches, coarse grids before fine ones. -/
def point (e : Enclosure) : Scaled :=
  let digits := (Nat.toDigits 10 (e.upper / Nat.pow 2 e.places)).length
  let found :=
    (List.range digits).reverse.findSome? e.whole? <|>
      (List.range 20).findSome? fun place => e.fraction? (place + 1)
  found.getD ⟨0, 0⟩

end Enclosure

/-- The decimal point of a number that its enclosure gives. -/
def Binary.enclosed (b : Binary) : Scaled := b.enclosure.point

end Reconciler.Decimal
