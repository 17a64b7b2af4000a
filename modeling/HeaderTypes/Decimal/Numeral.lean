import HeaderTypes.Decimal.Float
import HeaderTypes.Text.Blank
import HeaderTypes.Text.Digit
import HeaderTypes.Text.Hex
import HeaderTypes.Text.Quoted

namespace HeaderTypes.Decimal

/-- What keeps a text from being a number. -/
inductive NumeralFault
  | notWhole (base : Nat) (points : List Nat)
  | notDecimal (points : List Nat)
  /-- Decimal numbers of more digits than this are not read. -/
  | tooLong (digits : Nat)
  /-- A number that no double is near to. -/
  | tooLarge
  deriving DecidableEq, Repr

/-- The greatest number of decimal digits that are read or written. -/
def longest : Nat := 4300

/-- The message on a text that is no whole number shows no more than the
beginning of a long one. -/
def NumeralFault.message : NumeralFault → String
  | notWhole base points =>
    s!"invalid literal for int() with base {base}: " ++
      String.ofList ((Text.quotePoints points).take 200)
  | notDecimal points =>
    "could not convert string to float: " ++ String.ofList (Text.quotePoints points)
  | tooLong digits =>
    s!"Exceeds the limit ({longest} digits) for integer string conversion: value has {digits} " ++
      "digits; use sys.set_int_max_str_digits() to increase the limit"
  | tooLarge => "int too large to convert to float"

/-- The message on a whole number of more digits than are written. -/
def tooLongMessage : String :=
  s!"Exceeds the limit ({longest} digits) for integer string conversion; " ++
    "use sys.set_int_max_str_digits() to increase the limit"

/-- The least whole number of more digits than are written. -/
def firstTooLong : Nat := Nat.pow 10 longest

/-- The white space of ASCII. -/
def isSpace (c : Char) : Bool := c = ' ' || '\t' ≤ c && c ≤ '\r'

/-- A character as numbers are read: a digit of any script is a digit, any
blank beyond ASCII is a space, and nothing else beyond ASCII belongs to a number. -/
def numeralChar (c : Char) : Char :=
  if c.toNat < 0x7F then c
  else if Text.isBlank c then ' '
  else match Text.digitValue? c with
    | some value => Char.ofNat ('0'.toNat + value)
    | none => '?'

/-- A sign and what follows it. -/
def readSign : List Char → Bool × List Char
  | '-' :: s => (true, s)
  | '+' :: s => (false, s)
  | s => (false, s)

/-- A text without the mark of its base, which a number may have in front. -/
def dropBaseMark (base : Nat) : List Char → List Char
  | '0' :: c :: s =>
    let mark := c.toLower
    if base = 2 && mark = 'b' || base = 8 && mark = 'o' || base = 16 && mark = 'x' then s
    else '0' :: c :: s
  | s => s

/-- The digit of a number to a base. -/
def digitOf? (base : Nat) (c : Char) : Option Nat := (Text.hexValue? c).filter (· < base)

/-- The number that digits spell to a base. -/
def spelled (base : Nat) (digits : List Char) : Nat :=
  digits.foldl (fun n c => base * n + (Text.hexValue? c).getD 0) 0

/-- The characters of code points as numbers are read. -/
def numeralText (points : List Nat) : List Char := (Text.ofPoints points).map numeralChar

/-- Reads a whole number with space around it. -/
def readWhole (base : Nat) (points : List Nat) : Except NumeralFault Int :=
  let (negative, s) := readSign ((numeralText points).dropWhile isSpace)
  let s := dropBaseMark base s
  let isDigit (c : Char) := (digitOf? base c).isSome
  let digits := s.takeWhile isDigit
  if base = 10 && longest < digits.length then .error (.tooLong digits.length)
  else if digits = [] || !(s.dropWhile isDigit).all isSpace then .error (.notWhole base points)
  else
    let size : Int := spelled base digits
    .ok (if negative then -size else size)

/-- The power of ten at the end of a number: `e`, a sign if there is one, and digits. -/
def power? : List Char → Option Int
  | [] => some 0
  | c :: s =>
    let (negative, digits) := readSign s
    if (c = 'e' || c = 'E') && digits ≠ [] && digits.all Char.isDigit then
      let size : Int := spelled 10 digits
      some (if negative then -size else size)
    else none

/-- The double next to a number without a sign. -/
def unsigned? (s : List Char) : Option Float :=
  let word := String.ofList (s.map Char.toLower)
  if word = "inf" || word = "infinity" then some (1.0 / 0.0)
  else if word = "nan" then some (0.0 / 0.0)
  else
    let whole := s.takeWhile Char.isDigit
    let s := s.dropWhile Char.isDigit
    let afterPoint := if s.head? = some '.' then s.tail else []
    let fraction := afterPoint.takeWhile Char.isDigit
    let rest := if s.head? = some '.' then afterPoint.dropWhile Char.isDigit else s
    if whole = [] && fraction = [] then none
    else
      (power? rest).map fun power =>
        Digits.toFloat ⟨spelled 10 (whole ++ fraction), power - fraction.length⟩

/-- Reads a number, whole or not, with space around it. -/
def readFloat (points : List Nat) : Except NumeralFault Float :=
  let s := (numeralText points).dropWhile isSpace
  let (negative, s) := readSign (s.reverse.dropWhile isSpace).reverse
  match unsigned? s with
  | some size => .ok (if negative then -size else size)
  | none => .error (.notDecimal points)

/-- The least whole number that is too large for a double. -/
def firstTooLarge : Nat := Nat.pow 2 1024 - Nat.pow 2 970

/-- The double next to a whole number. -/
def ofWhole (n : Nat) : Except NumeralFault Float :=
  if firstTooLarge ≤ n then .error .tooLarge else .ok (Float.ofNat n)

end HeaderTypes.Decimal
