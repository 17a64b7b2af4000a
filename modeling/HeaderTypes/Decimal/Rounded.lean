import HeaderTypes.Decimal.Float
import HeaderTypes.Text.Digit

namespace HeaderTypes.Decimal

/-- The whole number nearest to a quotient, the even one of two. -/
def Ratio.nearest (r : Ratio) : Nat :=
  let below := r.numerator / r.denominator
  let rest := 2 * (r.numerator % r.denominator)
  if r.denominator < rest || (rest = r.denominator && below % 2 = 1) then below + 1 else below

namespace Digits

/-- The number of steps of `10 ^ exponent` nearest to a decimal. -/
def steps (d : Digits) (exponent : Int) : Nat :=
  (Ratio.scaled d.digits 10 (d.exponent - exponent)).nearest

/-- The whole part of a decimal. -/
def whole (d : Digits) : Nat :=
  let ratio := Ratio.scaled d.digits 10 d.exponent
  ratio.numerator / ratio.denominator

/-- A point and what follows it. A point with nothing behind it is left out unless
it is asked for. -/
def fraction (keepsPoint : Bool) (digits : List Char) : List Char :=
  if digits = [] && !keepsPoint then [] else '.' :: digits

/-- A decimal with a number of places behind the point. -/
def fixed (keepsPoint : Bool) (places : Nat) (d : Digits) : List Char :=
  let digits := (Text.padded (places + 1) (d.steps (-places))).toList
  let split := digits.length - places
  digits.take split ++ fraction keepsPoint (digits.drop split)

/-- A decimal as its first digit with a number of digits behind it, and the
exponent of ten of the first. -/
def leading (places : Nat) (d : Digits) : Nat × Int :=
  if d.digits = 0 then (0, 0)
  else
    let exponent := d.exponent + (Nat.toDigits 10 d.digits).length - 1
    let digits := d.steps (exponent - places)
    if digits = Nat.pow 10 (places + 1) then (digits / 10, exponent + 1) else (digits, exponent)

/-- The first digit of a decimal and a number of places behind the point. -/
def mantissa (keepsPoint : Bool) (places : Nat) (d : Digits) : List Char :=
  let digits := (Text.padded (places + 1) (d.leading places).1).toList
  digits.take 1 ++ fraction keepsPoint (digits.drop 1)

/-- A decimal with one digit before the point, and its exponent of ten. -/
def scientific (keepsPoint : Bool) (places : Nat) (d : Digits) : List Char :=
  d.mantissa keepsPoint places ++ power (d.leading places).2

/-- Digits without the zeros at the end of what follows the point. -/
def dropFinalZeros (digits : List Char) : List Char :=
  if digits.contains '.' then
    let kept := digits.reverse.dropWhile (· = '0')
    (if kept.head? = some '.' then kept.tail else kept).reverse
  else digits

/-- A decimal with a number of significant digits, one at least, and an exponent
if it is small or has more digits before the point. Final zeros stay if the point does. -/
def general (keepsPoint : Bool) (count : Nat) (d : Digits) : List Char :=
  let places := count - 1
  let exponent := (d.leading places).2
  let trim := if keepsPoint then id else dropFinalZeros
  if -4 ≤ exponent && exponent ≤ places then
    trim (d.fixed keepsPoint (places - exponent).toNat)
  else trim (d.mantissa keepsPoint places) ++ power exponent

end Digits

end HeaderTypes.Decimal
