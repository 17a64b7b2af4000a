import HeaderTypes.Decimal.Numeral
import HeaderTypes.Document.Value
import HeaderTypes.Text.Word

namespace HeaderTypes.Document.Json

/-- What keeps a text from being a JSON document. -/
inductive Cause
  | valueExpected
  | commaExpected
  | colonExpected
  | nameExpected
  | extraData
  | controlCharacter
  | unknownEscape
  | brokenUnicodeEscape
  | unterminatedString
  | byteOrderMark
  /-- A number that is not read. -/
  | number (fault : Decimal.NumeralFault)
  /-- A list or else a map inside too many others. -/
  | depth (isList : Bool)
  deriving DecidableEq, Repr

def Cause.message : Cause → String
  | valueExpected => "Expecting value"
  | commaExpected => "Expecting ',' delimiter"
  | colonExpected => "Expecting ':' delimiter"
  | nameExpected => "Expecting property name enclosed in double quotes"
  | extraData => "Extra data"
  | controlCharacter => "Invalid control character at"
  | unknownEscape => "Invalid \\escape"
  | brokenUnicodeEscape => "Invalid \\uXXXX escape"
  | unterminatedString => "Unterminated string starting at"
  | byteOrderMark => "Unexpected UTF-8 BOM (decode using utf-8-sig)"
  | number fault => fault.message
  | depth isList =>
    "maximum recursion depth exceeded while decoding a JSON " ++
      (if isList then "array" else "object") ++ " from a unicode string"

/-- A fault with the line, the column in it and the number of characters before it. -/
structure Fault where
  cause : Cause
  line : Nat
  column : Nat
  position : Nat
  deriving DecidableEq, Repr

/-- The containers of the document are too deep inside each other. -/
def Fault.isDepth (fault : Fault) : Bool :=
  match fault.cause with
  | .depth _ => true
  | _ => false

/-- A fault of the form of a document is told with its place, one of size without. -/
def Fault.message (fault : Fault) : String :=
  match fault.cause with
  | .number _ | .depth _ => fault.cause.message
  | cause => s!"{cause.message}: line {fault.line} column {fault.column} (char {fault.position})"

/-- The place at which a rest of a text begins. -/
def Fault.before (cause : Cause) (rest text : List Char) : Fault :=
  let position := text.length - rest.length
  let passed := text.take position
  let lastLine := passed.reverse.takeWhile (· ≠ '\n')
  ⟨cause, passed.count '\n' + 1, lastLine.length + 1, position⟩

/-- The end of a reading step: a value and the rest of the text, or a cause
and the rest that begins where the fault lies. -/
abbrev Step (α : Type) := Except (Cause × List Char) (α × List Char)

/-- The characters that may stand between the parts of a document. -/
def isSpace (c : Char) : Bool := c = ' ' || c = '\t' || c = '\n' || c = '\r'

def skipSpace (s : List Char) : List Char := s.dropWhile isSpace

/-- The character that a letter after a backslash stands for. -/
def escaped? : Char → Option Char
  | '"' => some '"'
  | '\\' => some '\\'
  | '/' => some '/'
  | 'b' => some '\x08'
  | 'f' => some '\x0c'
  | 'n' => some '\n'
  | 'r' => some '\r'
  | 't' => some '\t'
  | _ => none

/-- The number that four digits after `\u` spell. The text may not end right after them. -/
def unit? (s : List Char) : Option Nat := if s.length < 5 then none else Text.hexNumber? (s.take 4)

/-- The second half of a pair of units, written as an escape at the head of a text. -/
def lowUnit? : List Char → Option Nat
  | '\\' :: 'u' :: s => (unit? s).filter fun unit => 0xDC00 ≤ unit && unit ≤ 0xDFFF
  | _ => none

/-- The code point of a unit, or of a unit and the second half of its pair. -/
def unitPoint (unit : Nat) (low : Option Nat) : Nat :=
  match low with
  | some low => 0x10000 + (unit - 0xD800) * 0x400 + (low - 0xDC00)
  | none => unit

/-- Reads the code points of a string from behind its opening quote, which
begins the text `start`. -/
def readString (start : List Char) : List Char → Step (List Nat)
  | [] => .error (.unterminatedString, start)
  | '"' :: s => .ok ([], s)
  | '\\' :: 'u' :: s =>
    match unit? s with
    | none => .error (.brokenUnicodeEscape, 'u' :: s)
    | some unit =>
      let low := if 0xD800 ≤ unit && unit ≤ 0xDBFF then lowUnit? (s.drop 4) else none
      let length := if low.isSome then 10 else 4
      (readString start (s.drop length)).map fun (ps, rest) => (unitPoint unit low :: ps, rest)
  | '\\' :: c :: s =>
    match escaped? c with
    | none => .error (.unknownEscape, '\\' :: c :: s)
    | some e => (readString start s).map fun (ps, rest) => (e.toNat :: ps, rest)
  | ['\\'] => .error (.unterminatedString, start)
  | c :: s =>
    if c.toNat < 0x20 then .error (.controlCharacter, c :: s)
    else (readString start s).map fun (ps, rest) => (c.toNat :: ps, rest)
termination_by s => s.length
decreasing_by
  · simp only [List.length_drop, List.length_cons]; omega
  · simp only [List.length_cons]; omega
  · simp only [List.length_cons]; omega

/-- The digits after a point, none if there is no point with a digit after it. -/
def readFraction (s : List Char) : List Char × List Char :=
  match s with
  | '.' :: r =>
    if Text.startsWith Char.isDigit r then (r.takeWhile Char.isDigit, r.dropWhile Char.isDigit)
    else ([], s)
  | _ => ([], s)

/-- The power of ten after `e` or `E`, if digits follow there. -/
def readPower (s : List Char) : Option Int × List Char :=
  match s with
  | c :: r =>
    if c = 'e' || c = 'E' then
      let (negative, digits) := match r with
        | '-' :: r => (true, r)
        | '+' :: r => (false, r)
        | r => (false, r)
      if Text.startsWith Char.isDigit digits then
        let power : Int := Decimal.spelled 10 (digits.takeWhile Char.isDigit)
        (some (if negative then -power else power), digits.dropWhile Char.isDigit)
      else (none, s)
    else (none, s)
  | [] => (none, s)

/-- A number with its sign put aside: whole unless it has a fraction or a
power. A zero in front is a number of its own. -/
def readUnsigned? (negative : Bool) (s : List Char) : Option (Step Scalar) :=
  if Text.startsWith Char.isDigit s then
    let length := if s.head? = some '0' then 1 else (s.takeWhile Char.isDigit).length
    let whole := s.take length
    let (fraction, s) := readFraction (s.drop length)
    let (power, s) := readPower s
    if fraction = [] && power = none then
      match Decimal.readWhole 10 (Text.pointsOf whole) with
      | .ok n => some (.ok (.int (if negative then -n else n), s))
      | .error fault => some (.error (.number fault, s))
    else
      let x := Decimal.Digits.toFloat
        ⟨Decimal.spelled 10 (whole ++ fraction), power.getD 0 - fraction.length⟩
      some (.ok (.float (if negative then -x else x), s))
  else none

/-- A value that is neither string nor container. -/
def readPlain? (s : List Char) : Option (Step Scalar) :=
  let word (name : String) (value : Scalar) : Option (Step Scalar) :=
    (Text.dropText? name.toList s).map fun rest => .ok (value, rest)
  word "null" .null <|> word "true" (.bool true) <|> word "false" (.bool false)
    <|> word "NaN" (.float (0.0 / 0.0)) <|> word "Infinity" (.float (1.0 / 0.0))
    <|> word "-Infinity" (.float (-1.0 / 0.0))
    <|> match s with
      | '-' :: r => readUnsigned? true r
      | _ => readUnsigned? false s

mutual

/-- Reads a value at the head of a text, with room for a number of containers
inside each other. Nothing is read once the fuel is spent; each call needs one
unit and a document two for every character. -/
def readValue : (fuel room : Nat) → List Char → Step Value
  | 0, _, s => .error (.valueExpected, s)
  | fuel + 1, room, s =>
    match s with
    | '"' :: r =>
      (readString s r).map fun (points, rest) => (.scalar (.text (.ofPoints points)), rest)
    | '[' :: r =>
      if room = 0 then .error (.depth true, s)
      else
        match skipSpace r with
        | ']' :: rest => .ok (.list [], rest)
        | r => (readItems fuel (room - 1) r).map fun (items, rest) => (.list items, rest)
    | '\x7b' :: r =>
      if room = 0 then .error (.depth false, s)
      else
        match skipSpace r with
        | '\x7d' :: rest => .ok (.map [], rest)
        | r =>
          (readEntries fuel (room - 1) r).map fun (entries, rest) => (Value.ofEntries entries, rest)
    | s =>
      match readPlain? s with
      | some read => read.map fun (value, rest) => (.scalar value, rest)
      | none => .error (.valueExpected, s)

/-- Reads the items of a list, the first of them at the head of the text. -/
def readItems : (fuel room : Nat) → List Char → Step (List Value)
  | 0, _, s => .error (.valueExpected, s)
  | fuel + 1, room, s =>
    match readValue fuel room s with
    | .error fault => .error fault
    | .ok (item, s) =>
      match skipSpace s with
      | ']' :: rest => .ok ([item], rest)
      | ',' :: r =>
        (readItems fuel room (skipSpace r)).map fun (items, rest) => (item :: items, rest)
      | s => .error (.commaExpected, s)

/-- Reads the entries of a map, the first of them at the head of the text. -/
def readEntries : (fuel room : Nat) → List Char → Step (List (Scalar × Value))
  | fuel + 1, room, '"' :: r =>
    match readString ('"' :: r) r with
    | .error fault => .error fault
    | .ok (name, s) =>
      match skipSpace s with
      | ':' :: r =>
        match readValue fuel room (skipSpace r) with
        | .error fault => .error fault
        | .ok (value, s) =>
          let entry := (Scalar.text (.ofPoints name), value)
          match skipSpace s with
          | '\x7d' :: rest => .ok ([entry], rest)
          | ',' :: r =>
            (readEntries fuel room (skipSpace r)).map fun (entries, rest) =>
              (entry :: entries, rest)
          | s => .error (.commaExpected, s)
      | s => .error (.colonExpected, s)
  | _, _, s => .error (.nameExpected, s)

end

/-- The value of a JSON document, with nothing but space around it, if there is
room for its containers inside each other. -/
def readWithin (room : Nat) (text : List Char) : Except Fault Value :=
  if text.head? = some '\uFEFF' then .error (.before .byteOrderMark text text)
  else
    match readValue (2 * text.length + 2) room (skipSpace text) with
    | .error (cause, rest) => .error (.before cause rest text)
    | .ok (value, rest) =>
      match skipSpace rest with
      | [] => .ok value
      | rest => .error (.before .extraData rest text)

/-- The containers of a document lie inside each other up to this depth. -/
def deepest : Nat := 990

/-- The value of a JSON document that is not too deep. -/
def read (text : List Char) : Except Fault Value := readWithin deepest text

end HeaderTypes.Document.Json
