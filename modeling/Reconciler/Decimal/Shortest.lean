import Reconciler.Decimal.Basic

/-!
# Shortest decimal points

The shortest decimal point of a binary number is the one with the fewest digits in its interval, and
of two such points the nearer one.
-/

namespace Reconciler.Decimal

/-- A decimal point rounds to the number: it lies in the interval, whose ends count when the
mantissa is even. -/
def Binary.admits (b : Binary) (point : Scaled) : Bool :=
  let r := (power 10 point.exponent).scale point.digits
  if b.mantissa % 2 = 0 then b.lower.le r && r.le b.upper
  else b.lower.lt r && r.lt b.upper

/-- The exponent of the leading decimal digit of a positive quotient. -/
def leadingExponent (r : Ratio) : Int :=
  let guess : Int :=
    (Nat.toDigits 10 r.numerator).length - (Nat.toDigits 10 r.denominator).length
  if r.lt (power 10 guess) then guess - 1 else guess

/-- The nearest admitted point whose last digit stands for `10 ^ exponent`, if there is one. -/
def Binary.nearestOn (b : Binary) (exponent : Int) : Option Scaled :=
  let unit := power 10 exponent
  let below : Scaled :=
    ⟨b.value.numerator * unit.denominator / (b.value.denominator * unit.numerator), exponent⟩
  let above : Scaled := ⟨below.digits + 1, exponent⟩
  let distance (p : Scaled) := b.value.gap (unit.scale p.digits)
  match b.admits below, b.admits above with
  | true, true => some (if (distance above).lt (distance below) then above else below)
  | true, false => some below
  | false, true => some above
  | false, false => none

/-- A decimal point without trailing zeros, which move to the exponent. -/
def Scaled.trimmed (point : Scaled) : Scaled :=
  let zeros := ((Nat.toDigits 10 point.digits).reverse.takeWhile (· == '0')).length
  ⟨point.digits / Nat.pow 10 zeros, point.exponent + zeros⟩

/-- The shortest point of the number: grids of one, two, and up to seventeen digits are tried in
turn. -/
def Binary.shortest (b : Binary) : Scaled :=
  let leading := leadingExponent b.value
  let tried := (List.range 17).findSome? fun places : Nat => b.nearestOn (leading - places)
  (tried.getD ⟨0, 0⟩).trimmed

end Reconciler.Decimal
