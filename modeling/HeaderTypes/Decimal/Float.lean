import HeaderTypes.Decimal.Shortest

namespace HeaderTypes.Decimal

/-- How a double is written: the exponents of ten of the first digit for which
the point is set among the digits, and the words for what has no digits. -/
structure Style where
  leastPointed : Int
  greatestPointed : Int
  infinity : String
  notANumber : String

/-- Plain texts have a point from `0.0001` up to sixteen digits. -/
def plainStyle : Style := ⟨-4, 15, "inf", "nan"⟩

/-- The style of documents, in which infinity is spelled out. -/
def documentStyle : Style := ⟨-4, 15, "Infinity", "NaN"⟩

/-- The leading bit of a mantissa, which is left out of the bit pattern. -/
def hiddenBit : Nat := Nat.pow 2 52

/-- The finite double of a bit pattern that is not zero, its sign put aside. -/
def Binary.ofBits (bits : Nat) : Binary :=
  let biased := bits / hiddenBit % 2048
  let fraction := bits % hiddenBit
  if biased = 0 then ⟨fraction, -1074, false⟩
  else ⟨hiddenBit + fraction, (biased : Int) - 1075, fraction = 0 && 1 < biased⟩

/-- Digits with a point where it belongs; at least one digit on either side. -/
def pointed (digits : List Char) (exponent : Int) : List Char :=
  if exponent < 0 then
    '0' :: '.' :: List.replicate (-exponent - 1).toNat '0' ++ digits
  else
    let whole := exponent.toNat + 1
    let filled := digits ++ List.replicate (whole - digits.length) '0'
    let fraction := filled.drop whole
    filled.take whole ++ '.' :: (if fraction = [] then ['0'] else fraction)

/-- An exponent of ten with its sign and two digits or more. -/
def power (exponent : Int) : List Char :=
  let digits := Nat.toDigits 10 exponent.natAbs
  'e' :: (if exponent < 0 then '-' else '+') :: (List.replicate (2 - digits.length) '0' ++ digits)

/-- Digits with a point after the first, if there are more, and the exponent. -/
def withExponent (digits : List Char) (exponent : Int) : List Char :=
  digits.take 1 ++ (if digits.length = 1 then [] else '.' :: digits.drop 1) ++ power exponent

/-- A positive decimal in a style, zeros at its end left out. -/
def Digits.render (style : Style) (d : Digits) : List Char :=
  let all := Nat.toDigits 10 d.digits
  let digits := (all.reverse.dropWhile (· = '0')).reverse
  let exponent := d.exponent + (all.length : Int) - 1
  if style.leastPointed ≤ exponent && exponent ≤ style.greatestPointed then
    pointed digits exponent
  else withExponent digits exponent

/-- A double in the fewest digits that read back as it. -/
def render (style : Style) (x : Float) : String :=
  let bits := x.toBits.toNat
  let sign := if bits / (2048 * hiddenBit) = 1 then "-" else ""
  let magnitude := bits % (2048 * hiddenBit)
  if magnitude / hiddenBit = 2047 then
    if magnitude % hiddenBit = 0 then sign ++ style.infinity else style.notANumber
  else if magnitude = 0 then sign ++ "0.0"
  else sign ++ String.ofList ((Binary.ofBits magnitude).shortest.render style)

/-- The whole number that a double is equal to, if it is one. -/
def whole? (x : Float) : Option Int :=
  let bits := x.toBits.toNat
  let magnitude := bits % (2048 * hiddenBit)
  let size? : Option Nat :=
    if magnitude / hiddenBit = 2047 then none
    else if magnitude = 0 then some 0
    else
      let ratio := (Binary.ofBits magnitude).ratio
      if ratio.numerator % ratio.denominator = 0 then some (ratio.numerator / ratio.denominator)
      else none
  size?.map fun (size : Nat) => if bits / (2048 * hiddenBit) = 1 then -(size : Int) else size

/-- A double has its sign set. Zero may have it. -/
def isNegative (x : Float) : Bool := x.toBits.toNat / (2048 * hiddenBit) = 1

/-- The decimal that a finite double is equal to, its sign put aside. -/
def decimalOf? (x : Float) : Option Digits :=
  let magnitude := x.toBits.toNat % (2048 * hiddenBit)
  if magnitude / hiddenBit = 2047 then none
  else
    let b := Binary.ofBits magnitude
    if 0 ≤ b.exponent then some ⟨b.mantissa * Nat.pow 2 b.exponent.toNat, 0⟩
    else some ⟨b.mantissa * Nat.pow 5 (-b.exponent).toNat, b.exponent⟩

/-- The double next to `digits · 10 ^ exponent`. Sizes far outside the range
of doubles are answered at once. -/
def Digits.toFloat (d : Digits) : Float :=
  let size := ((Nat.toDigits 10 d.digits).length : Int) + d.exponent
  if d.digits = 0 || size < -400 then 0.0
  else if size > 400 then 1.0 / 0.0
  else if 0 ≤ d.exponent then Float.ofScientific d.digits false d.exponent.toNat
  else Float.ofScientific d.digits true (-d.exponent).toNat

end HeaderTypes.Decimal
