import HeaderTypes.Text.Quoted
import HeaderTypes.Text.Utf8

namespace HeaderTypes.Text

/-- Halves of surrogate pairs, which cannot be written as bytes: the first of
them, how many characters stand before it, and how many halves follow each other. -/
structure HalvesFault where
  first : Nat
  position : Nat
  count : Nat
  deriving DecidableEq, Repr

def HalvesFault.message (fault : HalvesFault) : String :=
  let escape := String.ofList (escapedPoint fault.first)
  let place :=
    if fault.count = 1 then s!"character '{escape}' in position {fault.position}"
    else s!"characters in position {fault.position}-{fault.position + fault.count - 1}"
  s!"'utf-8' codec can't encode {place}: surrogates not allowed"

/-- The first code point of a certain kind that is one of halves, with those
right after it. Some characters stand before. -/
def halvesBehind? (certain : Nat → Bool) (position : Nat) : List Nat → Option HalvesFault
  | [] => none
  | point :: points =>
    if certain point then some ⟨point, position, 1 + (points.takeWhile isHalf).length⟩
    else halvesBehind? certain (position + 1) points

def halvesFault? (certain : Nat → Bool) (points : List Nat) : Option HalvesFault :=
  halvesBehind? certain 0 points

/-- Half of a pair that does not stand for a byte in the name of a file. -/
def isForeignHalf (point : Nat) : Bool := isHalf point && !(0xDC80 ≤ point && point ≤ 0xDCFF)

/-- What keeps a text from being the name of a file. -/
def nameFault? (name : Loose) : Option HalvesFault := halvesFault? isForeignHalf name.points

/-- The bytes of a code point in the name of a file. Some halves stand for single bytes. -/
def nameBytes (point : Nat) : List UInt8 :=
  if isHalf point then [UInt8.ofNat (point - 0xDC00)]
  else (String.singleton (Char.ofNat point)).toUTF8.toList

/-- A name as characters. Halves for bytes that make characters together are
those characters. -/
def nameChars (points : List Nat) : List Char :=
  match decodeUtf8 (points.flatMap nameBytes) with
  | .ok cs => cs
  | .error _ => ofPoints points

/-- A path as characters, name by name. -/
def pathText (path : Loose) : String :=
  if path.stoodFor = [] then path.text
  else String.ofList (['/'].intercalate ((splitOn '/'.toNat path.points).map nameChars))

end HeaderTypes.Text
