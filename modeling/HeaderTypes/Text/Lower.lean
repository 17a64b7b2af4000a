import HeaderTypes.Text.CaseTable
import HeaderTypes.Text.LowerTable

namespace HeaderTypes.Text

def CapitalRange.holds (range : CapitalRange) (point : Nat) : Bool :=
  range.first ≤ point && point ≤ range.last && (point - range.first) % range.step = 0

/-- The small letter of a capital beyond ASCII. -/
def smallLetter? (point : Nat) : Option Nat :=
  (capitalRanges.find? (·.holds point)).map fun range => ((point : Int) + range.shift).toNat

/-- The small letters of a code point. The Turkish capital I keeps its point. -/
def lowerPoint (point : Nat) : List Nat :=
  if point < 128 then [(Char.ofNat point).toLower.toNat]
  else if point = 0x130 then [0x69, 0x307]
  else [(smallLetter? point).getD point]

/-- The letter that code points begin with, what is passed over left out, is
large or small. -/
def beginsCased (points : List Nat) : Bool :=
  match points.dropWhile passedOverRanges.holdsPoint with
  | [] => false
  | point :: _ => casedRanges.holdsPoint point

/-- Code points in small letters, behind a large or small letter or not. At the
end of a word the capital sigma has a small form of its own. -/
def lowerBehind (cased : Bool) : List Nat → List Nat
  | [] => []
  | point :: points =>
    let small :=
      if point = 0x3A3 && cased && !beginsCased points then [0x3C2] else lowerPoint point
    let cased :=
      if passedOverRanges.holdsPoint point then cased else casedRanges.holdsPoint point
    small ++ lowerBehind cased points

/-- Code points in small letters. -/
def lower (points : List Nat) : List Nat := lowerBehind false points

end HeaderTypes.Text
