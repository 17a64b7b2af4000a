namespace HeaderTypes.Decimal

/-- A positive number `mantissa · 2 ^ exponent` of a binary format. At the
least mantissa of its exponent the numbers below lie half as far apart. -/
structure Binary where
  mantissa : Nat
  exponent : Int
  atLeast : Bool
  deriving DecidableEq, Repr

/-- The number `digits · 10 ^ exponent`. -/
structure Digits where
  digits : Nat
  exponent : Int
  deriving DecidableEq, Repr

/-- A quotient of natural numbers, the denominator positive. -/
structure Ratio where
  numerator : Nat
  denominator : Nat

namespace Ratio

def le (a b : Ratio) : Bool := a.numerator * b.denominator ≤ b.numerator * a.denominator

def lt (a b : Ratio) : Bool := a.numerator * b.denominator < b.numerator * a.denominator

/-- The distance of two quotients. -/
def distance (a b : Ratio) : Ratio :=
  let left := a.numerator * b.denominator
  let right := b.numerator * a.denominator
  ⟨(left - right) + (right - left), a.denominator * b.denominator⟩

/-- `n · base ^ exponent`. -/
def scaled (n base : Nat) (exponent : Int) : Ratio :=
  if 0 ≤ exponent then ⟨n * base.pow exponent.toNat, 1⟩ else ⟨n, base.pow (-exponent).toNat⟩

end Ratio

/-- The value as a quotient. -/
def Binary.ratio (b : Binary) : Ratio := .scaled (4 * b.mantissa) 2 (b.exponent - 2)

/-- The least number that rounds to the value or is the midpoint below it. -/
def Binary.lower (b : Binary) : Ratio :=
  .scaled (4 * b.mantissa - if b.atLeast then 1 else 2) 2 (b.exponent - 2)

/-- The midpoint above the value. -/
def Binary.upper (b : Binary) : Ratio := .scaled (4 * b.mantissa + 2) 2 (b.exponent - 2)

/-- A number reads back as the value when it lies between the midpoints. They
themselves read back as an even mantissa. -/
def Binary.readsBack (b : Binary) (r : Ratio) : Bool :=
  if b.mantissa % 2 = 0 then b.lower.le r && r.le b.upper else b.lower.lt r && r.lt b.upper

/-- The exponent of ten of the first digit. No binary double is below `10 ^ -400`. -/
def Binary.decimalExponent (b : Binary) : Int :=
  let whole := b.ratio.numerator * Nat.pow 10 400 / b.ratio.denominator
  ((Nat.toDigits 10 whole).length : Int) - 401

/-- The number of `count` significant digits that reads back as the value, the
nearer one of two neighbours on that grid, if one of them does. -/
def Binary.onGrid? (b : Binary) (count : Nat) : Option Digits :=
  let exponent := b.decimalExponent - count + 1
  let step := Ratio.scaled 1 10 exponent
  let below := b.ratio.numerator * step.denominator / (b.ratio.denominator * step.numerator)
  let point (n : Nat) : Ratio := ⟨n * step.numerator, step.denominator⟩
  match b.readsBack (point below), b.readsBack (point (below + 1)) with
  | true, false => some ⟨below, exponent⟩
  | false, true => some ⟨below + 1, exponent⟩
  | false, false => none
  | true, true =>
    let downwards := b.ratio.distance (point below)
    let upwards := b.ratio.distance (point (below + 1))
    if downwards.lt upwards || (downwards.le upwards && below % 2 = 0) then some ⟨below, exponent⟩
    else some ⟨below + 1, exponent⟩

/-- The fewest digits that read back as the value, seventeen at most. -/
def Binary.shortest (b : Binary) : Digits :=
  (((List.range 17).map (· + 1)).findSome? b.onGrid?).getD ⟨0, 0⟩

end HeaderTypes.Decimal
