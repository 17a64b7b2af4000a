import HeaderTypes.Decimal.Numeral
import HeaderTypes.Document.Timestamp
import HeaderTypes.Document.Value
import HeaderTypes.Text.Quoted

namespace HeaderTypes.Document

/-- A part of a document without parts of its own. -/
inductive Atom
  | scalar (value : Scalar)
  | timestamp (value : Timestamp)
  | bytes (value : List UInt8)
  /-- A number that is none and the same only as itself. -/
  | notANumber (place : Nat)

/-- A part of a document. Parts inside it are told by their places, so that a
container may be inside itself. -/
inductive Cell
  | atom (value : Atom)
  | list (items : List Nat)
  | map (entries : List (Atom × Nat))
  | set (members : List Atom)
  | pair (first second : Nat)

/-- A part of a document, by its place among all parts. -/
structure Part where
  cells : Array Cell
  place : Nat

namespace Atom

@[match_pattern] abbrev text (value : Text.Loose) : Atom := .scalar (.text value)

/-- Two atoms are one and the same key of a map. -/
def sameKey : Atom → Atom → Bool
  | scalar a, scalar b => a.sameKey b
  | timestamp a, timestamp b => a.same b
  | bytes a, bytes b => a = b
  | notANumber a, notANumber b => a = b
  | _, _ => false

def isSet : Atom → Bool
  | scalar value => value.isSet
  | bytes value => !value.isEmpty
  | timestamp _ | notANumber _ => true

/-- A scalar inside a container: texts in quotes. Numbers of too many digits are not written. -/
def shownScalar? : Scalar → Option String
  | .null => some "None"
  | .bool value => some (if value then "True" else "False")
  | .int value => if value.natAbs < Decimal.firstTooLong then some (toString value) else none
  | .float value => some (Decimal.render Decimal.plainStyle value)
  | .text value => some value.quoted

/-- An atom inside a container. -/
def shown? : Atom → Option String
  | scalar value => shownScalar? value
  | timestamp value => some value.shown
  | bytes value => some (String.ofList (Text.quoteBytes value))
  | notANumber _ => some Decimal.plainStyle.notANumber

/-- An atom as a text: a text is itself, and a timestamp is a date with its time. -/
def text? : Atom → Option Text.Loose
  | .text value => some value
  | timestamp value => some value.text
  | atom => atom.shown?.map (↑·)

end Atom

namespace Cell

/-- What is shown of a container inside itself. -/
def inside : Cell → String
  | list _ => "[...]"
  | map _ => "\x7b...\x7d"
  | set _ => "set(...)"
  | pair _ _ => "(...)"
  | atom _ => ""

end Cell

namespace Part

/-- A part written out, containers in brackets and texts in quotes. There is no
such text if a number in it has too many digits. A container that is around the
part is not written out again. A chain of containers is no longer than there are
cells, which bounds the fuel. -/
def shownAt? (cells : Array Cell) : (fuel : Nat) → (around : List Nat) → Nat → Option String
  | 0, _, _ => none
  | fuel + 1, around, place => do
    let cell ← cells[place]?
    if around.contains place then return cell.inside
    else
      let shown? := shownAt? cells fuel (place :: around)
      match cell with
      | .atom value => value.shown?
      | .list items => return "[" ++ ", ".intercalate (← items.mapM shown?) ++ "]"
      | .map entries =>
        let parts ← entries.mapM fun (key, value) =>
          return (← key.shown?) ++ ": " ++ (← shown? value)
        return "\x7b" ++ ", ".intercalate parts ++ "\x7d"
      | .set members =>
        if members.isEmpty then return "set()"
        else return "\x7b" ++ ", ".intercalate (← members.mapM Atom.shown?) ++ "\x7d"
      | .pair first second =>
        return "(" ++ (← shown? first) ++ ", " ++ (← shown? second) ++ ")"

def cell (part : Part) : Cell := part.cells[part.place]?.getD (.atom (.scalar .null))

/-- A part as a text: an atom by itself, a container written out. -/
def text? (part : Part) : Option Text.Loose :=
  match part.cell with
  | .atom value => value.text?
  | _ => (shownAt? part.cells (part.cells.size + 1) [] part.place).map (↑·)

/-- The part at another place of the document. -/
def partAt (part : Part) (place : Nat) : Part := { part with place }

/-- The items of a list. -/
def items? (part : Part) : Option (List Part) :=
  match part.cell with
  | .list items => some (items.map part.partAt)
  | _ => none

/-- The entries of a map. -/
def entries? (part : Part) : Option (List (Atom × Part)) :=
  match part.cell with
  | .map entries => some (entries.map fun (key, value) => (key, part.partAt value))
  | _ => none

def isNull (part : Part) : Bool :=
  match part.cell with
  | .atom (.scalar .null) => true
  | _ => false

/-- A truth value. -/
def bool? (part : Part) : Option Bool :=
  match part.cell with
  | .atom (.scalar (.bool value)) => some value
  | _ => none

/-- A part counts as set unless it is null, false, zero or empty. -/
def isSet (part : Part) : Bool :=
  match part.cell with
  | .atom value => value.isSet
  | .list items => !items.isEmpty
  | .map entries => !entries.isEmpty
  | .set members => !members.isEmpty
  | .pair _ _ => true

/-- The part under a text among the entries of a map. -/
def lookup? (key : String) (entries : List (Atom × Part)) : Option Part :=
  (entries.find? fun entry => entry.1.sameKey (.text key)).map (·.2)

mutual

/-- Adds the parts of a value to the cells, and gives the place of the value itself. -/
def store (cells : Array Cell) : Value → Nat × Array Cell
  | .scalar value => (cells.size, cells.push (.atom (.scalar value)))
  | .list items =>
    let (places, cells) := storeItems cells items
    (cells.size, cells.push (.list places))
  | .map entries =>
    let (places, cells) := storeEntries cells entries
    (cells.size, cells.push (.map places))

def storeItems (cells : Array Cell) : List Value → List Nat × Array Cell
  | [] => ([], cells)
  | item :: items =>
    let (place, cells) := store cells item
    let (places, cells) := storeItems cells items
    (place :: places, cells)

def storeEntries (cells : Array Cell) : List (Scalar × Value) → List (Atom × Nat) × Array Cell
  | [] => ([], cells)
  | (key, value) :: entries =>
    let (place, cells) := store cells value
    let (places, cells) := storeEntries cells entries
    ((.scalar key, place) :: places, cells)

end

/-- A value as a part of a document of which it is the whole. -/
def ofValue (value : Value) : Part :=
  let (place, cells) := store #[] value
  ⟨cells, place⟩

end Part

end HeaderTypes.Document
