/-!
# Floating point numbers and decimal points

A finite positive binary number `m * 2 ^ q` stands for the interval of reals that round to it.  A
decimal point in that interval is a text of the number.  How the point is found is left to a search,
and where the decimal mark goes to a `Layout`.
-/

namespace Reconciler.Decimal

/-- A decimal point `digits * 10 ^ exponent`. -/
structure Scaled where
  digits : Nat
  exponent : Int
deriving DecidableEq, Inhabited

/-- A positive binary number `mantissa * 2 ^ exponent`, and whether the number below it is only half
as far away as the number above it. -/
structure Binary where
  mantissa : Nat
  exponent : Int
  narrowBelow : Bool
deriving DecidableEq

/-- The number a finite positive double holds. -/
def Binary.ofBits (bits : Nat) : Binary :=
  let fraction : Nat := bits % Nat.pow 2 52
  let biased : Nat := bits / Nat.pow 2 52 % Nat.pow 2 11
  if biased = 0 then ⟨fraction, -1074, false⟩
  else ⟨Nat.pow 2 52 + fraction, (biased : Int) - 1075, fraction == 0 && biased > 1⟩

/-- A quotient of natural numbers, `numerator / denominator`. -/
structure Ratio where
  numerator : Nat
  denominator : Nat

/-- The factor `base ^ exponent` as a quotient. -/
def power (base : Nat) (exponent : Int) : Ratio :=
  if exponent ≥ 0 then ⟨Nat.pow base exponent.toNat, 1⟩ else ⟨1, Nat.pow base (-exponent).toNat⟩

def Ratio.scale (factor : Nat) (r : Ratio) : Ratio :=
  ⟨factor * r.numerator, r.denominator⟩

def Ratio.lt (a b : Ratio) : Bool :=
  a.numerator * b.denominator < b.numerator * a.denominator

def Ratio.le (a b : Ratio) : Bool :=
  a.numerator * b.denominator ≤ b.numerator * a.denominator

/-- The distance of two quotients. -/
def Ratio.gap (a b : Ratio) : Ratio :=
  let left := a.numerator * b.denominator
  let right := b.numerator * a.denominator
  ⟨if left < right then right - left else left - right, a.denominator * b.denominator⟩

/-- The value of the number, and the ends of the interval that rounds to it. -/
def Binary.value (b : Binary) : Ratio :=
  (power 2 (b.exponent - 2)).scale (4 * b.mantissa)

def Binary.lower (b : Binary) : Ratio :=
  (power 2 (b.exponent - 2)).scale (4 * b.mantissa - if b.narrowBelow then 1 else 2)

def Binary.upper (b : Binary) : Ratio :=
  (power 2 (b.exponent - 2)).scale (4 * b.mantissa + 2)

/-- How a number is laid out: exponents up to `positionalBelow` digits before the point and down to
`zerosBelow` zeros after it are written out, any other number gets an exponent mark. -/
structure Layout where
  positionalBelow : Int
  zerosBelow : Int
deriving DecidableEq

/-- The digits of a positive number with a mark at the right place. -/
def Layout.place (layout : Layout) (number : Scaled) : String :=
  let digits := Nat.toDigits 10 number.digits
  let exponent := number.exponent
  let point := digits.length + exponent
  if 0 ≤ exponent ∧ point ≤ layout.positionalBelow then
    String.ofList (digits ++ List.replicate exponent.toNat '0') ++ ".0"
  else if 0 < point ∧ point ≤ layout.positionalBelow then
    String.ofList (digits.take point.toNat) ++ "." ++ String.ofList (digits.drop point.toNat)
  else if layout.zerosBelow < point ∧ point ≤ 0 then
    "0." ++ String.ofList (List.replicate (-point).toNat '0' ++ digits)
  else
    match digits with
    | [digit] => String.ofList [digit] ++ "e" ++ toString (point - 1)
    | digit :: rest => String.ofList (digit :: '.' :: rest) ++ "e" ++ toString (point - 1)
    | [] => ""

/-- The text of a finite double, whose magnitude a search turns into a decimal point. -/
def Layout.render (layout : Layout) (search : Binary → Scaled) (bits : UInt64) : String :=
  let sign := if bits.toNat / Nat.pow 2 63 = 1 then "-" else ""
  let magnitude := bits.toNat % Nat.pow 2 63
  if magnitude = 0 then sign ++ "0.0"
  else sign ++ layout.place (search (Binary.ofBits magnitude))

end Reconciler.Decimal
