import HeaderTypes.Decimal.Float
import HeaderTypes.Text.Loose

namespace HeaderTypes.Document

/-- A value without parts. -/
inductive Scalar
  | null
  | bool (value : Bool)
  | int (value : Int)
  | float (value : Float)
  | text (value : Text.Loose)

/-- What a document holds. The keys of a map are in the order in which they
were first written, and no two of them are the same. -/
inductive Value
  | scalar (value : Scalar)
  | list (items : List Value)
  | map (entries : List (Scalar × Value))
  deriving Inhabited

namespace Scalar

/-- A number by its value, whatever its type; truth values count as numbers. -/
def number? : Scalar → Option (Int ⊕ Float)
  | bool value => some (.inl (if value then 1 else 0))
  | int value => some (.inl value)
  | float value => some (.inr value)
  | _ => none

/-- Two scalars are one and the same key of a map: numbers by their value, and
a number that is none is the same as itself. -/
def sameKey (a b : Scalar) : Bool :=
  match a, b with
  | null, null => true
  | text a, text b => a = b
  | _, _ =>
    match a.number?, b.number? with
    | some (.inl a), some (.inl b) => a = b
    | some (.inr a), some (.inr b) => a == b || a.isNaN && b.isNaN
    | some (.inl a), some (.inr b) | some (.inr b), some (.inl a) => Decimal.whole? b = some a
    | _, _ => false

/-- A scalar counts as set unless it is null, false, zero or empty. -/
def isSet : Scalar → Bool
  | null => false
  | bool value => value
  | int value => value ≠ 0
  | float value => !(value == 0.0)
  | text value => !value.isEmpty

end Scalar

namespace Value

@[match_pattern] abbrev null : Value := .scalar .null
@[match_pattern] abbrev bool (value : Bool) : Value := .scalar (.bool value)
@[match_pattern] abbrev int (value : Int) : Value := .scalar (.int value)
@[match_pattern] abbrev float (value : Float) : Value := .scalar (.float value)
@[match_pattern] abbrev text (value : String) : Value := .scalar (.text ⟨value, []⟩)

/-- Gives a key its value: at the place of the key if the map has it, else at the end. -/
def putEntry (key : Scalar) (value : Value) : List (Scalar × Value) → List (Scalar × Value)
  | [] => [(key, value)]
  | entry :: entries =>
    if entry.1.sameKey key then (entry.1, value) :: entries
    else entry :: putEntry key value entries

/-- A map from entries of which later ones replace earlier ones. -/
def ofEntries (entries : List (Scalar × Value)) : Value :=
  .map (entries.foldl (fun map entry => putEntry entry.1 entry.2 map) [])

/-- The value of a text key among the entries of a map. -/
def lookup? (key : String) (entries : List (Scalar × Value)) : Option Value :=
  (entries.find? fun entry => entry.1.sameKey (.text key)).map (·.2)

/-- A container counts as set unless it is empty. -/
def isSet : Value → Bool
  | .scalar value => value.isSet
  | .list items => !items.isEmpty
  | .map entries => !entries.isEmpty

/-- The word for the type of a value. -/
def typeName : Value → String
  | .null => "NoneType"
  | .bool _ => "bool"
  | .int _ => "int"
  | .float _ => "float"
  | .scalar _ => "str"
  | .list _ => "list"
  | .map _ => "dict"

end Value

end HeaderTypes.Document
