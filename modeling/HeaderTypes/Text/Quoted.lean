import HeaderTypes.Text.Hex
import HeaderTypes.Text.Loose
import HeaderTypes.Text.PrintableTable

namespace HeaderTypes.Text

/-- Characters that a quoted text may show as they are. -/
def isPrintable (c : Char) : Bool := !unprintableRanges.holds c

/-- Single quotes, unless the text holds one and no double quote. -/
def quoteFor (s : List Char) : Char :=
  if s.contains '\'' && !s.contains '"' then '"' else '\''

/-- A code point as an escape of two, four or eight hexadecimal digits, as few as hold it. -/
def escapedPoint (point : Nat) : List Char :=
  if point < 0x100 then '\\' :: 'x' :: hex 2 point
  else if point < 0x10000 then '\\' :: 'u' :: hex 4 point
  else '\\' :: 'U' :: hex 8 point

/-- A character inside quotes. The quote and the backslash are escaped, and so
is what cannot be printed, by its code point unless it has a letter of its own. -/
def quotedChar (quote c : Char) : List Char :=
  if c = quote || c = '\\' then ['\\', c]
  else if c = '\n' then ['\\', 'n']
  else if c = '\r' then ['\\', 'r']
  else if c = '\t' then ['\\', 't']
  else if isPrintable c then [c]
  else escapedPoint c.toNat

/-- A text in quotes, on one line and printable throughout. -/
def quote (s : List Char) : List Char :=
  quoteFor s :: s.flatMap (quotedChar (quoteFor s)) ++ [quoteFor s]

/-- `quote` on strings. -/
def quoted (s : String) : String := String.ofList (quote s.toList)

/-- A text in ASCII. What is beyond that is escaped like characters that cannot be printed. -/
def inAscii (s : List Char) : List Char :=
  s.flatMap fun c => if c.toNat < 0x80 then [c] else escapedPoint c.toNat

/-- `quote` on code points. Halves are escaped. -/
def quotePoints (points : List Nat) : List Char :=
  let mark := quoteFor (ofPoints points)
  let shown (point : Nat) :=
    if isHalf point then escapedPoint point else quotedChar mark (Char.ofNat point)
  mark :: points.flatMap shown ++ [mark]

/-- `quote` on texts in which halves may stand alone. -/
def Loose.quoted (loose : Loose) : String := String.ofList (quotePoints loose.points)

/-- A byte inside quotes. What is not printable ASCII is escaped. -/
def quotedByte (quote : Char) (byte : UInt8) : List Char :=
  if byte < 0x80 then quotedChar quote (Char.ofNat byte.toNat) else escapedPoint byte.toNat

/-- Bytes in quotes with a letter in front that tells them from a text. -/
def quoteBytes (bytes : List UInt8) : List Char :=
  let mark := quoteFor (bytes.map fun byte => Char.ofNat byte.toNat)
  'b' :: mark :: bytes.flatMap (quotedByte mark) ++ [mark]

end HeaderTypes.Text
