import HeaderTypes.Document.Part

namespace HeaderTypes.Document.Yaml

/-- What keeps a text from being a document. -/
inductive Fault
  /-- Its form, or a value that is not of the kind it is said to be of. -/
  | malformed
  /-- The number of a character that is none. -/
  | noCharacter (point : Nat)
  | number (fault : Decimal.NumeralFault)
  /-- A number without any characters. -/
  | emptyNumber
  | timestamp (fault : TimestampFault)
  /-- A text that is said to be a timestamp and is none. -/
  | noTimestamp
  /-- A mapping that is said to be a timestamp by its default value. -/
  | mappedTimestamp
  /-- A word that is said to be a truth value and is none. -/
  | noTruth (word : List Nat)
  /-- Collections inside too many others. -/
  | depth
  deriving DecidableEq, Repr

/-- Numbers that are too large for a character differ from those that no machine word holds. -/
def isBeyondWord (point : Nat) : Bool := 0x7FFFFFFF < point

/-- A fault of form has no message of its own. -/
def Fault.message : Fault → String
  | malformed => ""
  | noCharacter point =>
    if isBeyondWord point then "Python int too large to convert to C int"
    else "chr() arg not in range(0x110000)"
  | number fault => fault.message
  | emptyNumber => "string index out of range"
  | timestamp fault => fault.message
  | noTimestamp => "'NoneType' object has no attribute 'groupdict'"
  | mappedTimestamp => "expected string or bytes-like object, got 'list'"
  | noTruth word => String.ofList (Text.quotePoints word)
  | depth => "maximum recursion depth exceeded"

/-- The fault is a value that is not fit for its kind, which is the one fault of
values that is looked for. -/
def Fault.isUnfitValue : Fault → Bool
  | number fault => fault ≠ .tooLarge
  | noCharacter point => !isBeyondWord point
  | timestamp _ => true
  | _ => false

/-- An attempt to read a part of a document. -/
abbrev Attempt := Except Fault

/-- A way to read YAML: what a text holds, or why it is no document. -/
abbrev Reader := List Char → Attempt Part

/-- What has no reason of its own to fail is malformed when it does. -/
def Attempt.ofOption {α : Type} : Option α → Attempt α
  | some a => .ok a
  | none => .error .malformed

end HeaderTypes.Document.Yaml
