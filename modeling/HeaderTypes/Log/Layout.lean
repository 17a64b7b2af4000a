import HeaderTypes.Decimal.Numeral
import HeaderTypes.Decimal.Rounded
import HeaderTypes.Log.Datum
import HeaderTypes.Log.Template

namespace HeaderTypes.Log

/-- How log lines are laid out. One that asks for the time of a record is timed. -/
structure Layout where
  pieces : List Piece
  timed : Bool
  deriving DecidableEq, Repr

/-- Why a record cannot be laid out. -/
inductive LineFault
  | openName
  | openPlace
  | noDatum (name : List Char)
  /-- No datum is left for a place without a name. -/
  | noneLeft
  | wideWidth
  | wideLimit
  /-- The datum for a count is no whole number. -/
  | noCount
  /-- The datum for a count is too large for one. -/
  | largeCount
  | largeWidth
  /-- A number that no double is near to. -/
  | largeNumber
  /-- What has no end is not written as a whole number. -/
  | endless
  /-- What is no number is not written as one. -/
  | notANumber
  | longNumber
  /-- A line of so many characters is not held. -/
  | noRoom
  | notReal (letter : Char) (type : String)
  | notWhole (letter : Char) (type : String)
  | notNumber (type : String)
  | noCharacter
  | farCharacter
  | unknownLetter (letter : Char) (index : Nat)
  deriving DecidableEq, Repr

def LineFault.message : LineFault → String
  | openName => "incomplete format key"
  | openPlace => "incomplete format"
  | noDatum name =>
    "Formatting field not found in record: " ++ String.ofList (Text.quote name)
  | noneLeft => "not enough arguments for format string"
  | wideWidth => "width too big"
  | wideLimit => "precision too big"
  | noCount => "* wants int"
  | largeCount => "Python int too large to convert to C int"
  | largeWidth => "Python int too large to convert to C ssize_t"
  | largeNumber => "int too large to convert to float"
  | endless => "cannot convert float infinity to integer"
  | notANumber => "cannot convert float NaN to integer"
  | longNumber => "precision too large"
  | noRoom => ""
  | notReal letter type => s!"%{letter} format: a real number is required, not {type}"
  | notWhole letter type => s!"%{letter} format: an integer is required, not {type}"
  | notNumber type => s!"must be real number, not {type}"
  | noCharacter => "%c requires int or char"
  | farCharacter => "%c arg not in range(0x110000)"
  | unknownLetter letter index =>
    let shown := if '\x1f' ≤ letter && letter ≤ '~' then letter else '?'
    let code := String.ofList (Nat.toDigits 16 letter.toNat)
    s!"unsupported format character '{shown}' (0x{code}) at index {index}"

/-- No line of more characters is held. -/
def longestLine : Nat := 0x2000000

/-- A datum as it is written in a place: a mark of its base, and digits or other
characters. A number may have a sign and zeros in front. -/
structure Written where
  negative : Bool := false
  mark : List Char := []
  body : List Char
  isNumber : Bool := false

/-- A whole number to a base, with zeros in front up to a number of digits. -/
def writeWhole (letter : Char) (marked : Bool) (limit : Option Nat) (n : Int) :
    Except LineFault Written :=
  let base := if letter = 'o' then 8 else if letter = 'x' || letter = 'X' then 16 else 10
  let digits := Nat.toDigits base n.natAbs
  let least := limit.getD 0
  if 0x7FFFFFFC < least then .error .longNumber
  else if longestLine < least then .error .noRoom
  else
    let body := List.replicate (least - digits.length) '0' ++ digits
    let body := if letter = 'X' then body.map Char.toUpper else body
    .ok ⟨n < 0, if marked && base ≠ 10 then ['0', letter] else [], body, true⟩

/-- A number with its fraction left out. -/
def wholePart (x : Float) : Except LineFault Int :=
  match Decimal.decimalOf? x with
  | some d => .ok (if Decimal.isNegative x then -(d.whole : Int) else d.whole)
  | none => .error (if x.isNaN then .notANumber else .endless)

/-- A number with a point or an exponent, of six places unless it is limited. -/
def writeReal (letter : Char) (keepsPoint : Bool) (limit : Option Nat) (x : Float) :
    Except LineFault Written :=
  let places := limit.getD 6
  if longestLine < places then .error .noRoom
  else
    let body :=
      match Decimal.decimalOf? x, letter.toLower with
      | none, _ => (if x.isNaN then "nan" else "inf").toList
      | some d, 'e' => d.scientific keepsPoint places
      | some d, 'f' => d.fixed keepsPoint places
      | some d, _ => d.general keepsPoint places
    let body := if letter.isUpper then body.map Char.toUpper else body
    .ok ⟨Decimal.isNegative x && !x.isNaN, [], body, true⟩

/-- The double next to a whole number. -/
def realOfWhole (n : Int) : Except LineFault Float :=
  match Decimal.ofWhole n.natAbs with
  | .ok x => .ok (if n < 0 then -x else x)
  | .error _ => .error .largeNumber

/-- A character, or the one of a number. -/
def writeChar (datum : Datum) : Except LineFault Written :=
  match datum, datum.whole? with
  | .text value, _ =>
    if value.length = 1 then .ok { body := value.toList } else .error .noCharacter
  | _, some n =>
    if 0 ≤ n && n < 0x110000 then .ok { body := [Text.charOfPoint n.toNat] }
    else .error .farCharacter
  | _, none => .error .noCharacter

/-- The characters of a text that a limit leaves. -/
def writeText (limit : Option Nat) (shown : List Char) : Written :=
  { body := match limit with
    | some limit => shown.take limit
    | none => shown }

/-- A datum as a letter has it written. -/
def Datum.write (datum : Datum) (letter : Char) (index : Nat) (alternate : Bool)
    (limit : Option Nat) : Except LineFault Written :=
  if letter = 's' then .ok (writeText limit datum.shown)
  else if letter = 'r' then .ok (writeText limit datum.quoted)
  else if letter = 'a' then .ok (writeText limit (Text.inAscii datum.quoted))
  else if letter = 'c' then writeChar datum
  else if "diu".toList.contains letter then
    match datum, datum.whole? with
    | _, some n => writeWhole letter alternate limit n
    | .real x, none => do writeWhole letter alternate limit (← wholePart x)
    | _, none => .error (.notReal letter datum.typeName)
  else if "oxX".toList.contains letter then
    match datum.whole? with
    | some n => writeWhole letter alternate limit n
    | none => .error (.notWhole letter datum.typeName)
  else if "eEfFgG".toList.contains letter then
    match datum, datum.whole? with
    | _, some n => do writeReal letter alternate limit (← realOfWhole n)
    | .real x, none => writeReal letter alternate limit x
    | _, none => .error (.notNumber datum.typeName)
  else .error (.unknownLetter letter index)

/-- Sets what is written in a place. It is filled up on the left, unless it is
set left, with blanks, or with zeros behind the sign and the mark of a number. -/
def Written.set (written : Written) (flags : List Char) (width : Nat) : List Char :=
  let sign :=
    if !written.isNumber then []
    else if written.negative then ['-']
    else if flags.contains '+' then ['+']
    else if flags.contains ' ' then [' ']
    else []
  let front := sign ++ written.mark
  let missing := width - (front ++ written.body).length
  if flags.contains '-' then front ++ written.body ++ List.replicate missing ' '
  else if written.isNumber && flags.contains '0' then
    front ++ List.replicate missing '0' ++ written.body
  else List.replicate missing ' ' ++ front ++ written.body

/-- A step of laying out a line. It knows the datum for the next place without
a name: all that the record tells at first, then that of the last name, and
none when it is taken. -/
abbrev Line := StateT (Option Datum) (Except LineFault)

/-- Takes the datum for the next place. -/
def takeDatum : Line Datum := do
  match ← get with
  | some datum =>
    set (none : Option Datum)
    return datum
  | none => throw .noneLeft

/-- The largest count of the characters of a place. -/
def largestWidth : Nat := 0x7FFFFFFFFFFFFFFF

/-- The largest count of the characters of a datum. -/
def largestLimit : Nat := 0x7FFFFFFF

/-- A whole number is held by a machine word, whose largest number is given. -/
def fits (largest : Nat) (n : Int) : Bool := -(largest : Int) - 1 ≤ n && n ≤ largest

/-- The width of a place. -/
def Count.readWidth : Count → Line Nat
  | given count => if largestWidth < count then throw .wideWidth else return count
  | byDatum => do
    match (← takeDatum).whole? with
    | some count => if fits largestWidth count then return count.natAbs else throw .largeWidth
    | none => throw .noCount

/-- The limit of a place. -/
def Count.readLimit : Count → Line Nat
  | given count => if largestLimit < count then throw .wideLimit else return count
  | byDatum => do
    match (← takeDatum).whole? with
    | some count => if fits largestLimit count then return count.toNat else throw .largeCount
    | none => throw .noCount

/-- A place with its datum in it. -/
def Place.render (data : List (String × Datum)) (place : Place) : Line (List Char) := do
  if let some name := place.name then
    match data.lookup (String.ofList name) with
    | some datum => set (some datum)
    | none => throw (.noDatum name)
  let width ← place.width.mapM Count.readWidth
  let limit ← place.limit.mapM Count.readLimit
  match place.letter with
  | none => throw .openPlace
  | some letter =>
    let datum ← takeDatum
    let written ← datum.write letter place.index (place.flags.contains '#') limit
    if longestLine < width.getD 0 then throw .noRoom
    else return written.set place.flags (width.getD 0)

def Piece.render (data : List (String × Datum)) : Piece → Line (List Char)
  | .text c => return [c]
  | .place here => here.render data
  | .openName => throw .openName

/-- The line of a record that is marked with its context or not. -/
def Layout.render (layout : Layout) (marked : Bool) (stamped : Stamped) :
    Except LineFault String := do
  let data := stamped.data marked layout.timed
  let (parts, _) ←
    (layout.pieces.mapM (Piece.render data)).run (some (.parts "dict" (Stamped.written data)))
  return String.ofList parts.flatten

/-- The layout of a template as it stands. -/
def Layout.read (template : String) : Layout :=
  let s := template.toList
  ⟨readPieces s.length s, occurs "%(asctime)".toList s⟩

/-- The message alone. -/
def Layout.bare : Layout := .read bareTemplate

/-- The layout that a template describes. An empty one stands for the message. -/
def Layout.ofTemplate (template : String) : Except TemplateFault Layout :=
  if template = "" then .ok .bare
  else if hasNamedPlace template.toList then .ok (.read template)
  else .error ⟨template⟩

end HeaderTypes.Log
