import HeaderTypes.Text.WordTable

namespace HeaderTypes.Text

/-- Word characters: letters and numerals of any script, and the underscore. -/
def isWord (c : Char) : Bool :=
  if c.toNat < 128 then c.isAlphanum || c = '_' else alphanumericRanges.holds c

/-- The characters a C name may begin with. -/
def isNameStart (c : Char) : Bool := c.isAlpha || c = '_'

/-- A C name: an ASCII letter or underscore, then word characters of any script. -/
def isName : List Char → Bool
  | [] => false
  | c :: s => isNameStart c && s.all isWord

/-- The longest name at the head of a text, with what follows it. -/
def readName? : List Char → Option (List Char × List Char)
  | [] => none
  | c :: s => if isNameStart c then some (c :: s.takeWhile isWord, s.dropWhile isWord) else none

/-- What follows a given text, when it stands at the head. -/
def dropText? : List Char → List Char → Option (List Char)
  | [], s => some s
  | _ :: _, [] => none
  | w :: ws, c :: s => if w = c then dropText? ws s else none

theorem readName?_append {s name rest : List Char} (read : readName? s = some (name, rest)) :
    s = name ++ rest := by
  cases s with
  | nil => simp [readName?] at read
  | cons c s =>
    simp only [readName?] at read
    split at read
    · simp only [Option.some.injEq, Prod.mk.injEq] at read
      obtain ⟨rfl, rfl⟩ := read
      simp [List.takeWhile_append_dropWhile]
    · simp at read

theorem readName?_length_lt {s name rest : List Char} (read : readName? s = some (name, rest)) :
    rest.length < s.length := by
  have nonempty : name ≠ [] := by
    cases s with
    | nil => simp [readName?] at read
    | cons c s =>
      simp only [readName?] at read
      split at read
      · simp only [Option.some.injEq, Prod.mk.injEq] at read
        rw [← read.1]; exact List.cons_ne_nil _ _
      · simp at read
  rw [readName?_append read, List.length_append]
  have := List.length_pos_iff.mpr nonempty
  omega

theorem dropText?_eq_some_iff {word s rest : List Char} :
    dropText? word s = some rest ↔ s = word ++ rest := by
  induction word generalizing s with
  | nil => simp [dropText?]
  | cons w ws ih =>
    cases s with
    | nil => simp [dropText?]
    | cons c s =>
      by_cases same : w = c
      · subst same; simp [dropText?, ih]
      · simp [dropText?, same, Ne.symm same]

end HeaderTypes.Text
