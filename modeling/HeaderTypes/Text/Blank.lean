namespace HeaderTypes.Text

/-- Closed ranges of code points, in increasing order. -/
abbrev Ranges := List (Nat × Nat)

def Ranges.holdsPoint (ranges : Ranges) (point : Nat) : Bool :=
  ranges.any fun range => range.1 ≤ point && point ≤ range.2

/-- A character belongs to a table of ranges when one of them holds its code point. -/
def Ranges.holds (ranges : Ranges) (c : Char) : Bool := ranges.holdsPoint c.toNat

/-- The white space of Unicode together with the four information separators
U+001C to U+001F, which the bidirectional classes also count as separators. -/
def blankRanges : Ranges :=
  [(0x09, 0x0D), (0x1C, 0x20), (0x85, 0x85), (0xA0, 0xA0), (0x1680, 0x1680), (0x2000, 0x200A),
    (0x2028, 0x2029), (0x202F, 0x202F), (0x205F, 0x205F), (0x3000, 0x3000)]

/-- Blank characters separate the tokens of a header and are trimmed from names. -/
def isBlank (c : Char) : Bool := blankRanges.holds c

/-- A text begins with a character of some kind. -/
def startsWith (kind : Char → Bool) : List Char → Bool
  | [] => false
  | c :: _ => kind c

/-- The text from its first character that is not blank. -/
def dropBlanks (s : List Char) : List Char := s.dropWhile isBlank

/-- The text without the blanks at its end. -/
def dropFinalBlanks (s : List Char) : List Char := (s.reverse.dropWhile isBlank).reverse

/-- The text without the blanks at either end. -/
def trim (s : List Char) : List Char := dropFinalBlanks (dropBlanks s)

/-- `trim` on strings. -/
def trimmed (s : String) : String := String.ofList (trim s.toList)

/-- The parts between the separators, one more than there are separators. -/
def splitOn {α : Type} [DecidableEq α] (separator : α) : List α → List (List α)
  | [] => [[]]
  | c :: s =>
    if c = separator then [] :: splitOn separator s
    else
      match splitOn separator s with
      | [] => [[c]]
      | part :: parts => (c :: part) :: parts

/-- The trimmed parts between the separators, those that hold nothing left out. -/
def trimmedParts (separator : Char) (s : List Char) : List (List Char) :=
  ((splitOn separator s).map trim).filter (· ≠ [])

theorem dropBlanks_length_le (s : List Char) : (dropBlanks s).length ≤ s.length :=
  (List.dropWhile_sublist _).length_le

/-- Every character that core calls white space is blank. -/
theorem isBlank_of_isWhitespace {c : Char} (white : c.isWhitespace = true) : isBlank c = true := by
  simp only [Char.isWhitespace, Bool.or_eq_true, decide_eq_true_eq] at white
  rcases white with ((rfl | rfl) | rfl) | rfl <;> rfl

end HeaderTypes.Text
