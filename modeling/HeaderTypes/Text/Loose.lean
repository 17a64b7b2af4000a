import HeaderTypes.Text.Blank

namespace HeaderTypes.Text

/-- Half of a surrogate pair, which is a code point but no character. -/
def isHalf (point : Nat) : Bool := 0xD800 ≤ point && point ≤ 0xDFFF

/-- The character that stands for a half among characters. -/
def standIn : Char := '\uFFFD'

/-- The character of a code point, with a stand-in for a half. -/
def charOfPoint (point : Nat) : Char := if isHalf point then standIn else Char.ofNat point

/-- The characters of code points, with stand-ins for halves. -/
def ofPoints (points : List Nat) : List Char := points.map charOfPoint

/-- The code points of characters. -/
def pointsOf (s : List Char) : List Nat := s.map Char.toNat

/-- Code points that are shown as the stand-in. -/
def isStoodFor (point : Nat) : Bool := charOfPoint point = standIn

/-- The code points of characters, given those for which the stand-ins among them stand. -/
def restored : (s : List Char) → (stoodFor : List Nat) → List Nat
  | c :: s, point :: points =>
    if c = standIn then point :: restored s points else c.toNat :: restored s (point :: points)
  | s, _ => pointsOf s

/-- A text in which halves of surrogate pairs may stand alone. Its characters
have a stand-in for each of them. If there is any, the code points are told for
which all stand-ins stand, from left to right. -/
structure Loose where
  text : String
  stoodFor : List Nat := []
  deriving DecidableEq, Repr

namespace Loose

/-- A text of characters alone. -/
instance : Coe String Loose := ⟨fun text => ⟨text, []⟩⟩

instance : Coe (List String) (List Loose) := ⟨List.map fun text => ↑text⟩

def ofPoints (points : List Nat) : Loose :=
  ⟨String.ofList (Text.ofPoints points),
    if points.any isHalf then points.filter isStoodFor else []⟩

def points (loose : Loose) : List Nat := restored loose.text.toList loose.stoodFor

instance : Append Loose := ⟨fun a b => ofPoints (a.points ++ b.points)⟩

def isEmpty (loose : Loose) : Bool := loose.text = ""

/-- The text with its characters changed in a way that keeps all stand-ins in their order. -/
def mapText (change : String → String) (loose : Loose) : Loose :=
  { loose with text := change loose.text }

/-- The text without the blanks at either end. No stand-in is blank. -/
def trimmed (loose : Loose) : Loose := loose.mapText Text.trimmed

/-- The texts one after the other, another one between two of them. -/
def intercalate (between : Loose) (parts : List Loose) : Loose :=
  ofPoints (between.points.intercalate (parts.map points))

end Loose

theorem toNat_charOfPoint {point : Nat} (valid : point < 0x110000) (whole : isHalf point = false) :
    (charOfPoint point).toNat = point := by
  have char : point.isValidChar := by
    simp only [isHalf, Bool.and_eq_false_iff, decide_eq_false_iff_not] at whole
    simp only [Nat.isValidChar]
    omega
  simp only [charOfPoint, whole, Bool.false_eq_true, if_false]
  unfold Char.ofNat
  rw [dif_pos char]
  rfl

theorem isStoodFor_of_isHalf {point : Nat} (half : isHalf point) : isStoodFor point := by
  simp [isStoodFor, charOfPoint, half]

theorem restored_ofPoints {points : List Nat} (valid : ∀ point ∈ points, point < 0x110000) :
    restored (ofPoints points) (points.filter isStoodFor) = points := by
  induction points with
  | nil => rfl
  | cons point points ih =>
    have rest := ih fun next member => valid next (List.mem_cons_of_mem _ member)
    by_cases stood : isStoodFor point
    · have shown : charOfPoint point = standIn := by simpa [isStoodFor] using stood
      simp only [ofPoints, List.map_cons, List.filter_cons_of_pos stood, restored, if_pos shown]
      rw [← ofPoints, rest]
    · have shown : charOfPoint point ≠ standIn := by simpa [isStoodFor] using stood
      have whole : isHalf point = false := by
        simpa using mt isStoodFor_of_isHalf stood
      have kept := toNat_charOfPoint (valid point List.mem_cons_self) whole
      rw [List.filter_cons_of_neg stood]
      cases filtered : points.filter isStoodFor with
      | nil =>
        rw [filtered] at rest
        simp only [ofPoints, List.map_cons, restored, pointsOf, kept]
        cases points with
        | nil => rfl
        | cons next points => simpa [ofPoints, restored, pointsOf] using rest
      | cons first others =>
        rw [filtered] at rest
        simp only [ofPoints, List.map_cons, restored, if_neg shown, kept]
        rw [← ofPoints, rest]

/-- No code point is lost behind a stand-in. -/
theorem Loose.points_ofPoints {points : List Nat} (valid : ∀ point ∈ points, point < 0x110000) :
    (Loose.ofPoints points).points = points := by
  by_cases halves : points.any isHalf
  · simp [Loose.ofPoints, Loose.points, halves, restored_ofPoints valid]
  · have each : ∀ point ∈ points, (charOfPoint point).toNat = point := fun point member =>
      toNat_charOfPoint (valid point member) (by simp at halves; simpa using halves point member)
    have unread (s : List Char) : restored s [] = pointsOf s := by cases s <;> rfl
    have plain : (Loose.ofPoints points).points = pointsOf (Text.ofPoints points) := by
      simp [Loose.ofPoints, Loose.points, halves, unread]
    rw [plain, pointsOf, Text.ofPoints, List.map_map]
    exact (List.map_congr_left each).trans (List.map_id' points)

end HeaderTypes.Text
