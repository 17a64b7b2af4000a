import HeaderTypes.Document.Value
import HeaderTypes.Text.Hex

namespace HeaderTypes.Document.Json
open Text (Loose)

/-- How a document is written: with its keys in order or as they come, in
ASCII alone or not. -/
structure Layout where
  sorted : Bool
  ascii : Bool

/-- Models keep the order of their keys and all characters. -/
def modelLayout : Layout := ⟨false, false⟩

/-- Reports have their keys in order and are ASCII throughout. -/
def reportLayout : Layout := ⟨true, true⟩

/-- A unit of two bytes as an escape. -/
def unitEscape (unit : Nat) : List Char := '\\' :: 'u' :: Text.hex 4 unit

/-- A character inside a string. In ASCII one past the first 65536 is written as a pair of units. -/
def stringChar (ascii : Bool) (c : Char) : List Char :=
  match c with
  | '"' => ['\\', '"']
  | '\\' => ['\\', '\\']
  | '\n' => ['\\', 'n']
  | '\r' => ['\\', 'r']
  | '\t' => ['\\', 't']
  | '\x08' => ['\\', 'b']
  | '\x0c' => ['\\', 'f']
  | c =>
    if c.toNat < 0x20 then unitEscape c.toNat
    else if !ascii || c.toNat < 0x7F then [c]
    else if c.toNat < 0x10000 then unitEscape c.toNat
    else
      let offset := c.toNat - 0x10000
      unitEscape (0xD800 + offset / 0x400) ++ unitEscape (0xDC00 + offset % 0x400)

/-- A code point inside a string. In ASCII a half is written as an escape, and else as itself. -/
def stringPoint (ascii : Bool) (point : Nat) : List Nat :=
  if Text.isHalf point then if ascii then Text.pointsOf (unitEscape point) else [point]
  else Text.pointsOf (stringChar ascii (Char.ofNat point))

/-- A text as a string. -/
def renderText (ascii : Bool) (text : Loose) : Loose :=
  let quote := '"'.toNat
  .ofPoints (quote :: text.points.flatMap (stringPoint ascii) ++ [quote])

def renderScalar (ascii : Bool) : Scalar → Loose
  | .null => "null"
  | .bool value => if value then "true" else "false"
  | .int value => toString value
  | .float value => Decimal.render Decimal.documentStyle value
  | .text value => renderText ascii value

/-- The text under which a key is written. -/
def keyText : Scalar → Loose
  | .text name => name
  | key => renderScalar false key

/-- A line break, then two spaces for every level. -/
def newline (level : Nat) : String := String.ofList ('\n' :: List.replicate (2 * level) ' ')

/-- A part of a container: the pieces in which it is written, and whether what
stands in front of it is written together with the first of them. -/
structure Written where
  clinging : Bool
  pieces : List Loose

/-- A part behind what stands in front of it. -/
def Written.behind (front : String) (part : Written) : List Loose :=
  match part.clinging, part.pieces with
  | true, first :: rest => ((front : Loose) ++ first) :: rest
  | _, pieces => (front : Loose) :: pieces

/-- Parts between brackets, each on lines of its own one level further in. -/
def bracketed (opening closing : String) (level : Nat) : List Written → List Loose
  | [] => [↑(opening ++ closing)]
  | first :: rest =>
    first.behind (opening ++ newline (level + 1)) ++
      rest.flatMap (·.behind ("," ++ newline (level + 1))) ++ [↑(newline level ++ closing)]

/-- Keys stand in the order of their code points. -/
def keysInOrder (a b : Loose) : Bool := !b.points.lex a.points

/-- The entry of a map. Its parts are written one by one. -/
def entryWritten (ascii : Bool) (name : Loose) (value : List Loose) : Written :=
  ⟨false, renderText ascii name :: (": " : Loose) :: value⟩

mutual

/-- The pieces in which a value is written that begins on a line of a given level. -/
def piecesAt (layout : Layout) (level : Nat) : Value → List Loose
  | .scalar value => [renderScalar layout.ascii value]
  | .list items => bracketed "[" "]" level (itemsWritten layout (level + 1) items)
  | .map entries =>
    let parts := entriesWritten layout (level + 1) entries
    let parts :=
      if layout.sorted then parts.mergeSort (fun a b => keysInOrder a.1 b.1) else parts
    bracketed "\x7b" "\x7d" level
      (parts.map fun (name, value) => entryWritten layout.ascii name value)

/-- The items of a list. Only scalars are written together with what stands in front. -/
def itemsWritten (layout : Layout) (level : Nat) : List Value → List Written
  | [] => []
  | .scalar value :: items =>
    ⟨true, [renderScalar layout.ascii value]⟩ :: itemsWritten layout level items
  | item :: items => ⟨false, piecesAt layout level item⟩ :: itemsWritten layout level items

def entriesWritten (layout : Layout) (level : Nat) :
    List (Scalar × Value) → List (Loose × List Loose)
  | [] => []
  | (key, value) :: entries =>
    (keyText key, piecesAt layout level value) :: entriesWritten layout level entries

end

/-- The pieces in which a value is written as a document. -/
def pieces (layout : Layout) (value : Value) : List Loose := piecesAt layout 0 value

/-- A value as the text of a document. -/
def render (layout : Layout) (value : Value) : String :=
  String.join ((pieces layout value).map (·.text))

end HeaderTypes.Document.Json
