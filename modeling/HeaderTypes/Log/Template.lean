import HeaderTypes.Decimal.Numeral
import HeaderTypes.Text.Digit
import HeaderTypes.Text.Word

namespace HeaderTypes.Log

/-- A number of characters, told in the template or by a datum. -/
inductive Count
  | given (count : Nat)
  | byDatum
  deriving DecidableEq, Repr

/-- A place for a datum: the name of the datum, flags for how it is set, how
many characters the place has and how many of the datum, and the letter that
tells how the datum is written, with its index in the template. A template may
end before the letter. -/
structure Place where
  name : Option (List Char)
  flags : List Char
  width : Option Count
  limit : Option Count
  letter : Option Char
  index : Nat
  deriving DecidableEq, Repr

inductive Piece
  | text (c : Char)
  | place (place : Place)
  /-- The beginning of a name that the template does not end. -/
  | openName
  deriving DecidableEq, Repr

/-- The template of log lines that are marked with their context. -/
def contextTemplate : String :=
  "%(asctime)s | %(levelname)s | run_id=%(run_id)s | phase=%(phase)s | " ++
    "header=%(header)s | %(name)s | %(message)s"

/-- The template of the message alone. -/
def bareTemplate : String := "%(message)s"

/-- A template without any place for a datum. -/
structure TemplateFault where
  template : String
  deriving DecidableEq, Repr

def TemplateFault.message (fault : TemplateFault) : String :=
  s!"Invalid format '{fault.template}' for '%' style"

def isFlag (c : Char) : Bool := "#0+ -".toList.contains c

/-- Reads a name up to the bracket that closes it. Brackets in the name are paired. -/
def readName? : (opened : Nat) → List Char → Option (List Char × List Char)
  | _, [] => none
  | 0, ')' :: s => some ([], s)
  | opened + 1, ')' :: s => (readName? opened s).map fun (name, rest) => (')' :: name, rest)
  | opened, c :: s =>
    (readName? (if c = '(' then opened + 1 else opened) s).map fun (name, rest) => (c :: name, rest)

/-- Reads digits, or a star for what a datum tells. -/
def readCount : List Char → Option Count × List Char
  | '*' :: s => (some .byDatum, s)
  | s =>
    let digits := s.takeWhile Char.isDigit
    (if digits = [] then none else some (.given (Decimal.spelled 10 digits)),
      s.dropWhile Char.isDigit)

/-- Reads the count behind a point, which is zero if it is left out. -/
def readLimit : List Char → Option Count × List Char
  | '.' :: s => (some ((readCount s).1.getD (.given 0)), (readCount s).2)
  | s => (none, s)

/-- A text without the letter for a size, which says nothing. -/
def dropSize : List Char → List Char
  | c :: s => if c = 'h' || c = 'l' || c = 'L' then s else c :: s
  | [] => []

/-- Reads a place from behind its name. The template has `length` characters. -/
def readPlace (length : Nat) (name : Option (List Char)) (s : List Char) : Place × List Char :=
  let (width, afterWidth) := readCount (s.dropWhile isFlag)
  let (limit, afterLimit) := readLimit afterWidth
  let rest := dropSize afterLimit
  (⟨name, s.takeWhile isFlag, width, limit, rest.head?, length - rest.length⟩, rest.tail)

theorem readName?_length_lt {opened : Nat} {s name rest : List Char}
    (read : readName? opened s = some (name, rest)) : rest.length < s.length := by
  induction s generalizing opened name with
  | nil => simp [readName?] at read
  | cons c s ih =>
    unfold readName? at read
    split at read
    · simp at read
    · rename_i same
      cases same; cases read; simp
    · rename_i same
      cases same
      obtain ⟨found, inside, pair⟩ := Option.map_eq_some_iff.mp read
      cases pair
      exact Nat.lt_succ_of_lt (ih inside)
    · rename_i same
      cases same
      obtain ⟨found, inside, pair⟩ := Option.map_eq_some_iff.mp read
      cases pair
      exact Nat.lt_succ_of_lt (ih inside)

theorem readCount_length_le (s : List Char) : (readCount s).2.length ≤ s.length := by
  unfold readCount
  split
  · simp
  · exact (List.dropWhile_sublist _).length_le

theorem readLimit_length_le (s : List Char) : (readLimit s).2.length ≤ s.length := by
  unfold readLimit
  split
  · rename_i s
    have := readCount_length_le s
    simp only [List.length_cons]; omega
  · simp

theorem dropSize_length_le (s : List Char) : (dropSize s).length ≤ s.length := by
  unfold dropSize
  split
  · split <;> simp
  · simp

theorem readPlace_length_le (length : Nat) (name : Option (List Char)) (s : List Char) :
    (readPlace length name s).2.length ≤ s.length := by
  have flags := (List.dropWhile_sublist (l := s) isFlag).length_le
  have width := readCount_length_le (s.dropWhile isFlag)
  have limit := readLimit_length_le (readCount (s.dropWhile isFlag)).2
  have size := dropSize_length_le (readLimit (readCount (s.dropWhile isFlag)).2).2
  simp only [readPlace, List.length_tail]
  omega

/-- The pieces of a template of `length` characters. Two percent signs stand for one. -/
def readPieces (length : Nat) : List Char → List Piece
  | [] => []
  | '%' :: '%' :: s => .text '%' :: readPieces length s
  | '%' :: '(' :: s =>
    match _ : readName? 0 s with
    | some (name, rest) =>
      .place (readPlace length (some name) rest).1 ::
        readPieces length (readPlace length (some name) rest).2
    | none => [.openName]
  | '%' :: s => .place (readPlace length none s).1 :: readPieces length (readPlace length none s).2
  | c :: s => .text c :: readPieces length s
termination_by s => s.length
decreasing_by
  · simp only [List.length_cons]; omega
  · have named := readName?_length_lt (by assumption)
    have placed := readPlace_length_le length (some name) rest
    simp only [List.length_cons]; omega
  · exact Nat.lt_succ_of_le (readPlace_length_le length none s)
  · simp only [List.length_cons]; omega

/-- The letters that a place may end with in either case, and those that are
the same as one of them but for their case. -/
def isPlaceLetter (c : Char) : Bool :=
  "diouxefgcrsa%".toList.contains c.toLower || "ıİſ".toList.contains c

/-- A text without digits or a star in front. -/
def dropCount : List Char → List Char
  | '*' :: s => s
  | s => s.dropWhile Text.isDigit

/-- A text without a point and a count in front. -/
def dropLimit : List Char → List Char
  | '.' :: s => if (dropCount s).length < s.length then dropCount s else '.' :: s
  | s => s

/-- A place with a name that is a word stands behind a percent sign. -/
def isNamedPlace : List Char → Bool
  | '(' :: s =>
    match s.dropWhile Text.isWord with
    | ')' :: rest =>
      Text.startsWith Text.isWord s &&
        Text.startsWith isPlaceLetter (dropLimit (dropCount (rest.dropWhile isFlag)))
    | _ => false
  | _ => false

/-- Some percent sign begins a place for a datum. -/
def hasNamedPlace : List Char → Bool
  | [] => false
  | c :: s => c = '%' && isNamedPlace s || hasNamedPlace s

/-- One text stands somewhere in another one. -/
def occurs (part : List Char) : List Char → Bool
  | [] => part = []
  | c :: s => part.isPrefixOf (c :: s) || occurs part s

end HeaderTypes.Log
