import Reconciler.Decimal.Basic

/-!
# Reading decimals as doubles

A decimal is read in two roundings: the digits that fit into 64 bits become a double, which is then
multiplied or divided by a power of ten.  Further digits only count as places.
-/

namespace Reconciler.Decimal

/-- The leading digits of a decimal that fit into 64 bits, at their place. -/
def leading (digits : Nat) (exponent : Int) : Scaled :=
  if h : digits < Nat.pow 2 64 then ⟨digits, exponent⟩
  else leading (digits / 10) (exponent + 1)
termination_by digits
decreasing_by exact Nat.div_lt_self (Nat.lt_of_lt_of_le (by decide) (Nat.not_lt.1 h)) (by decide)

/-- The largest power of ten that is a double. -/
def largestPower : Nat := 308

def powerOfTen (exponent : Nat) : Float := Float.ofScientific 1 false exponent

/-- A double divided by a power of ten of any size, in steps of the largest one.  Four of them leave
nothing of any number. -/
def divide (value : Float) (exponent : Nat) : Float :=
  let steps := (exponent - 1) / largestPower
  let reduced := Nat.repeat (· / powerOfTen largestPower) (min steps 4) value
  reduced / powerOfTen (exponent - steps * largestPower)

/-- The double that a decimal is read as, unless it is too large for one. -/
def toDouble? (digits : Nat) (exponent : Int) : Option Float :=
  let kept := leading digits exponent
  let value := kept.digits.toFloat
  if kept.exponent < 0 then some (divide value kept.exponent.natAbs)
  else if kept.exponent.natAbs ≤ largestPower then
    let product := value * powerOfTen kept.exponent.natAbs
    if product.isInf then none else some product
  else if kept.digits = 0 then some 0
  else none

end Reconciler.Decimal
