import HeaderTypes.Document.Json.Printer
import HeaderTypes.Text.Halves

namespace HeaderTypes.Document.Json
open Text (Loose HalvesFault)

/-- The halves in a piece of a document, which are no characters and cannot be written. -/
def pieceFault? (piece : Loose) : Option HalvesFault :=
  Text.halvesFault? Text.isHalf piece.points

/-- The text of a document up to the first piece with halves, and those halves. -/
def writable (layout : Layout) (value : Value) : String × Option HalvesFault :=
  let pieces := pieces layout value
  let clean := pieces.takeWhile fun piece => (pieceFault? piece).isNone
  (String.join (clean.map (·.text)), pieces.findSome? pieceFault?)

end HeaderTypes.Document.Json
