import HeaderTypes.Text.Blank

namespace HeaderTypes.Comment

/-- What follows the first `*/` of a text. -/
def afterClose? : List Char → Option (List Char)
  | [] => none
  | '*' :: '/' :: s => some s
  | _ :: s => afterClose? s

/-- What follows a line comment once its two slashes are read: the newline and all after it. -/
def afterLine (s : List Char) : List Char := s.dropWhile (· ≠ '\n')

theorem afterClose?_length_lt {s rest : List Char} (closed : afterClose? s = some rest) :
    rest.length < s.length := by
  fun_induction afterClose? s with
  | case1 => simp at closed
  | case2 s =>
    simp only [Option.some.injEq] at closed
    subst closed
    simp only [List.length_cons]; omega
  | case3 c s _ ih => have := ih closed; simp only [List.length_cons]; omega

theorem afterLine_length_le (s : List Char) : (afterLine s).length ≤ s.length :=
  (List.dropWhile_sublist _).length_le

/-- Every `/*` with a later `*/` becomes one space, together with all up to
that `*/`. A `/*` that is never closed stays. -/
def dropBlockComments : List Char → List Char
  | [] => []
  | '/' :: '*' :: s =>
    match closed : afterClose? s with
    | some rest =>
      have _ := afterClose?_length_lt closed
      ' ' :: dropBlockComments rest
    | none => '/' :: dropBlockComments ('*' :: s)
  | c :: s => c :: dropBlockComments s
termination_by s => s.length

/-- Every `//` goes, with the rest of its line. -/
def dropLineComments : List Char → List Char
  | [] => []
  | '/' :: '/' :: s =>
    have _ := afterLine_length_le s
    dropLineComments (afterLine s)
  | c :: s => c :: dropLineComments s
termination_by s => s.length

/-- A text without its comments, those between `/*` and `*/` taken out first. -/
def strip (s : List Char) : List Char := dropLineComments (dropBlockComments s)

/-- `strip` on strings. -/
def stripped (s : String) : String := String.ofList (strip s.toList)

end HeaderTypes.Comment
