import HeaderTypes.Document.Part
import HeaderTypes.Document.Yaml.Fault
import HeaderTypes.Document.Yaml.Kind
import HeaderTypes.Text.Base64
import HeaderTypes.Text.Lower

namespace HeaderTypes.Document.Yaml

/-- The truth value of a word in letters of either size. -/
def readTruth (points : List Nat) : Attempt Bool :=
  let word := Text.lower points
  let isIn (words : List String) := words.any fun w => Text.pointsOf w.toList = word
  if isIn truthWords then .ok true
  else if isIn falsehoodWords then .ok false
  else .error (.noTruth word)

/-- Code points without underscores. -/
def dropUnderscores (points : List Nat) : List Nat := points.filter (Text.charOfPoint · ≠ '_')

/-- A number begins with a minus. -/
def isNegative (points : List Nat) : Bool := (Text.ofPoints points).head? = some '-'

/-- The code points of a number without its sign. -/
def unsignedPoints (points : List Nat) : List Nat :=
  points.drop (points.length - (unsigned (Text.ofPoints points)).length)

/-- The code points between colons. -/
def sixtieths (points : List Nat) : List (List Nat) := Text.splitOn ':'.toNat points

/-- The size of a whole number: binary after `0b`, hexadecimal after `0x`,
octal after `0`, and else decimal or to the base sixty with colons. -/
def readSize (points : List Nat) : Attempt Int :=
  let read (base : Nat) (points : List Nat) :=
    (Decimal.readWhole base points).mapError Fault.number
  match Text.ofPoints points with
  | [] => .error .emptyNumber
  | '0' :: 'b' :: _ => read 2 (points.drop 2)
  | '0' :: 'x' :: _ => read 16 (points.drop 2)
  | '0' :: _ => read 8 points
  | _ => do
    let parts ← (sixtieths points).mapM (read 10)
    return parts.foldl (fun n part => 60 * n + part) 0

/-- A whole number, among whose digits underscores may stand. -/
def readInt (points : List Nat) : Attempt Int := do
  let points := dropUnderscores points
  let size ← readSize (unsignedPoints points)
  return if isNegative points then -size else size

/-- The sum of sixtieths, the last of them first. -/
def sumSixtieths (sum : Float) (base : Nat) : List Float → Attempt Float
  | [] => .ok sum
  | part :: parts => do
    let unit ← (Decimal.ofWhole base).mapError Fault.number
    sumSixtieths (sum + part * unit) (60 * base) parts

/-- The size of a number that need not be whole, to the base sixty with colons. -/
def readPointedSize (points : List Nat) : Attempt Float := do
  if Text.ofPoints points = infinityWord then return 1.0 / 0.0
  else
    let parts ← (sixtieths points).mapM fun part =>
      (Decimal.readFloat part).mapError Fault.number
    match parts with
    | [part] => return part
    | parts => sumSixtieths 0.0 1 parts.reverse

/-- A number that need not be whole. Only the word for what is no number means
the same wherever it stands. -/
def readPointed (place : Nat) (points : List Nat) : Attempt Atom := do
  let points := Text.lower (dropUnderscores points)
  let size := unsignedPoints points
  if points = [] then .error .emptyNumber
  else if Text.ofPoints size = notANumberWord then return .scalar (.float (0.0 / 0.0))
  else
    let x ← readPointedSize size
    if x.isNaN then return .notANumber place
    else return .scalar (.float (if isNegative points then -x else x))

def readTimestamp (s : List Char) : Attempt Timestamp :=
  let line := if s.getLast? = some '\n' then s.dropLast else s
  match WrittenTimestamp.read? line with
  | some written => written.timestamp.mapError .timestamp
  | none => .error .noTimestamp

/-- The value of a text of a kind, at a place. -/
def Kind.atom (kind : Kind) (place : Nat) (points : List Nat) : Attempt Atom :=
  match kind with
  | null => .ok (.scalar .null)
  | bool => (readTruth points).map fun value => .scalar (.bool value)
  | int => (readInt points).map fun value => .scalar (.int value)
  | float => readPointed place points
  | timestamp => (readTimestamp (Text.ofPoints points)).map .timestamp
  | binary => (Attempt.ofOption (Text.decodeBase64 (Text.ofPoints points))).map .bytes
  | text => .ok (.text (.ofPoints points))
  | _ => .error .malformed

end HeaderTypes.Document.Yaml
