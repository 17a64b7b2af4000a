import HeaderTypes.Text.Blank

namespace HeaderTypes.Document.Yaml

/-- The characters that a document may hold. -/
def allowedRanges : Text.Ranges :=
  [(0x09, 0x0A), (0x0D, 0x0D), (0x20, 0x7E), (0x85, 0x85), (0xA0, 0xD7FF), (0xE000, 0xFFFD),
    (0x10000, 0x10FFFF)]

/-- The characters that end a line, the newlines of a text being unified. -/
def isBreak (c : Char) : Bool := c = '\n' || c = '\x85' || c = '\u2028' || c = '\u2029'

/-- What a line break is in a value: a newline, unless it separates lines or
paragraphs by its own name. -/
def breakText (c : Char) : Char := if c = '\x85' then '\n' else c

/-- Blanks stand between the words of a line. -/
def isBlank (c : Char) : Bool := c = ' ' || c = '\t'

/-- A blank, the end of a line or the end of the text. -/
def endsWord : List Char → Bool
  | [] => true
  | c :: _ => isBlank c || isBreak c

/-- The end of a line or of the text. -/
def endsLine : List Char → Bool
  | [] => true
  | c :: _ => isBreak c

/-- At the head of a line, three dashes begin a document and three points end it. -/
def isMarker : List Char → Bool
  | '-' :: '-' :: '-' :: s => endsWord s
  | '.' :: '.' :: '.' :: s => endsWord s
  | _ => false

/-- What two lines become when they are joined: a blank for one break, and for
more than one all but the first. -/
def joined (first : Char) (breaks : List Char) : List Char :=
  if breakText first ≠ '\n' then breakText first :: breaks
  else if breaks = [] then [' ']
  else breaks

/-- A line, the break that ends it, and the text after that. -/
def splitLine : List Char → List Char × Option Char × List Char
  | [] => ([], none, [])
  | c :: s =>
    if isBreak c then ([], some c, s)
    else
      let (line, ending, rest) := splitLine s
      (c :: line, ending, rest)

theorem splitLine_length_lt (c : Char) (s : List Char) :
    (splitLine (c :: s)).2.2.length < (c :: s).length := by
  induction s generalizing c with
  | nil => simp only [splitLine]; split <;> simp
  | cons d s ih =>
    rw [splitLine]
    split
    · simp
    · exact Nat.lt_trans (ih d) (by simp)

/-- How far a text has been read. A byte order mark takes up no column. -/
structure Place where
  index : Nat := 0
  line : Nat := 0
  column : Nat := 0

def Place.after (place : Place) (c : Char) : Place :=
  if isBreak c then ⟨place.index + 1, place.line + 1, 0⟩
  else ⟨place.index + 1, place.line, if c = '\uFEFF' then place.column else place.column + 1⟩

end HeaderTypes.Document.Yaml
