import HeaderTypes.Document.Timestamp
import HeaderTypes.Text.Word

namespace HeaderTypes.Document.Yaml

/-- What a node is by its tag, or else by its form. -/
inductive Kind
  | null
  | bool
  | int
  | float
  | timestamp
  | binary
  /-- The key under which a mapping takes over the entries of others. -/
  | merge
  /-- The key of a default value. -/
  | default
  | text
  | sequence
  | mapping
  | set
  /-- A list of entries, which keep their order. -/
  | ordered
  /-- A list of entries, which may repeat their keys. -/
  | pairs
  /-- A kind that has no values. -/
  | other
  deriving DecidableEq, Repr

/-- The words for truth and for its opposite, in small letters. -/
def truthWords : List String := ["yes", "true", "on"]

def falsehoodWords : List String := ["no", "false", "off"]

/-- A word in small letters, in capitals, or with a capital in front. -/
def isSpelling (word s : List Char) : Bool :=
  s = word || s = word.map Char.toUpper || s = (word.take 1).map Char.toUpper ++ word.drop 1

def isBool (s : List Char) : Bool :=
  (truthWords ++ falsehoodWords).any fun word => isSpelling word.toList s

def isNull (s : List Char) : Bool := s = [] || s = ['~'] || isSpelling "null".toList s

/-- A number without its sign. -/
def unsigned : List Char → List Char
  | '+' :: s => s
  | '-' :: s => s
  | s => s

/-- Digits among which underscores may stand. -/
def isRun (isDigit : Char → Bool) (s : List Char) : Bool := s.all fun c => isDigit c || c = '_'

/-- `isRun` with a digit in front. -/
def isWhole : List Char → Bool
  | [] => false
  | c :: s => c.isDigit && isRun Char.isDigit s

/-- A number below sixty of one digit or two. -/
def isSixtieth : List Char → Bool
  | [c] => c.isDigit
  | [c, d] => '0' ≤ c && c ≤ '5' && d.isDigit
  | _ => false

/-- Whole numbers are binary after `0b`, hexadecimal after `0x`, octal after
`0`, and else decimal or to the base sixty with colons. -/
def isInt (s : List Char) : Bool :=
  match unsigned s with
  | '0' :: 'b' :: s => s ≠ [] && isRun (fun c => c = '0' || c = '1') s
  | '0' :: 'x' :: s => s ≠ [] && isRun (fun c => (Text.hexValue? c).isSome) s
  | '0' :: s => isRun (fun c => '0' ≤ c && c ≤ '7') s
  | s =>
    match Text.splitOn ':' s with
    | [] => false
    | first :: parts => isWhole first && parts.all isSixtieth

/-- Nothing, or a power of ten with its sign. -/
def isPower : List Char → Bool
  | [] => true
  | e :: sign :: s =>
    (e = 'e' || e = 'E') && (sign = '+' || sign = '-') && s ≠ [] && s.all Char.isDigit
  | _ => false

/-- The part of a decimal after its point. -/
def isFraction (s : List Char) : Bool :=
  isPower (s.dropWhile fun c => c.isDigit || c = '_')

/-- The words for infinity and for what is no number, in small letters. -/
def infinityWord : List Char := ".inf".toList

def notANumberWord : List Char := ".nan".toList

def isInfinity (s : List Char) : Bool :=
  s = infinityWord || s = ".Inf".toList || s = ".INF".toList

def isNotANumber (s : List Char) : Bool :=
  s = notANumberWord || s = ".NaN".toList || s = ".NAN".toList

/-- Other numbers have a point. One to the base sixty has it in the last part. -/
def isFloat (s : List Char) : Bool :=
  match s with
  | '.' :: c :: r =>
    if c.isDigit then isFraction r
    else isNotANumber s || isInfinity s
  | _ =>
    let u := unsigned s
    match Text.splitOn ':' (u.takeWhile (· ≠ '.')), u.dropWhile (· ≠ '.') with
    | [whole], '.' :: r => isWhole whole && isFraction r || isInfinity u
    | first :: parts, '.' :: r => isWhole first && parts.all isSixtieth && isRun Char.isDigit r
    | _, _ => false

/-- A date with two digits for month and day, or a date with a time of day. -/
def isTimestamp (s : List Char) : Bool :=
  (WrittenTimestamp.read? s).any fun written => written.padded || written.time.isSome

/-- Marks that are no values by themselves. -/
def isLoneMark (s : List Char) : Bool := s = ['!'] || s = ['&'] || s = ['*']

/-- What a text on one line is by its form. -/
def Kind.ofLine (s : List Char) : Kind :=
  if isBool s then .bool
  else if isFloat s then .float
  else if isInt s then .int
  else if s = ['<', '<'] then .merge
  else if isNull s then .null
  else if isTimestamp s then .timestamp
  else if s = ['='] then .default
  else if isLoneMark s then .other
  else .text

/-- What a text is by its form, in which a newline at its end does not count. -/
def Kind.ofForm (s : List Char) : Kind :=
  if s = ['\n'] then .text
  else if s.getLast? = some '\n' then .ofLine s.dropLast
  else .ofLine s

/-- What the tags of all documents begin with. -/
def commonTag : String := "tag:yaml.org,2002:"

/-- The kinds that have tags, by the ends of these. -/
def tagNames : List (String × Kind) :=
  [("null", .null), ("bool", .bool), ("int", .int), ("float", .float), ("timestamp", .timestamp),
    ("binary", .binary), ("merge", .merge), ("value", .default), ("str", .text),
    ("seq", .sequence), ("map", .mapping), ("set", .set), ("omap", .ordered), ("pairs", .pairs)]

/-- The kind that a tag tells. -/
def Kind.ofTag (tag : String) : Kind :=
  ((Text.dropText? commonTag.toList tag.toList).bind fun name =>
    tagNames.lookup (String.ofList name)).getD .other

end HeaderTypes.Document.Yaml
