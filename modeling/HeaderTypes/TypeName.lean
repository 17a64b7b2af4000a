import HeaderTypes.Text.Loose
import HeaderTypes.Text.Word

namespace HeaderTypes.TypeName
open Text

/-- The characters of a token that is no run of stars. -/
def isPlain (c : Char) : Bool := !isBlank c && c ≠ '*'

/-- The number of stars at the head of a text and what follows the last of
them. Blanks between two stars are skipped, blanks after the last one stay. -/
def readStars (s : List Char) : Nat × List Char :=
  match same : dropBlanks s with
  | '*' :: r =>
    have : r.length < s.length := by
      have bound := dropBlanks_length_le s
      rw [same, List.length_cons] at bound; omega
    let run := readStars r
    (run.1 + 1, run.2)
  | _ => (0, s)
termination_by s.length

/-- The part of a text that clings to a star right before it: a run of plain
characters whose first is no word character, such as `(x)` in `*(x)`. -/
def clinging : List Char → List Char
  | [] => []
  | c :: s => if isPlain c && !isWord c then c :: s.takeWhile isPlain else []

theorem readStars_length_le (s : List Char) : (readStars s).2.length ≤ s.length := by
  fun_induction readStars s with
  | case1 s r _ shorter run ih => exact Nat.le_of_lt (Nat.lt_of_le_of_lt ih shorter)
  | case2 s _ => exact Nat.le_refl _

/-- The tokens of a type expression: runs of stars, with what clings to them,
and runs of plain characters. -/
def tokens : List Char → List (List Char)
  | [] => []
  | c :: s =>
    if isBlank c then tokens s
    else if c = '*' then
      let run := readStars s
      (List.replicate (run.1 + 1) '*' ++ clinging run.2) ::
        tokens (run.2.drop (clinging run.2).length)
    else (c :: s.takeWhile isPlain) :: tokens (s.dropWhile isPlain)
termination_by s => s.length
decreasing_by
  · exact Nat.lt_succ_self _
  · have := readStars_length_le s
    simp only [List.length_drop, List.length_cons]; omega
  · exact Nat.lt_succ_of_le (List.dropWhile_sublist _).length_le

/-- The canonical spelling of a type expression: its tokens, one space between
two of them. So `const char*` and `const  char *` name the same type. -/
def spelling (s : List Char) : List Char := [' '].intercalate (tokens s)

/-- `spelling` on strings. -/
def canonical (name : String) : String := String.ofList (spelling name.toList)

/-- `canonical` on names in which halves may stand alone. A stand-in is neither blank nor star. -/
def key (name : Loose) : Loose := name.mapText canonical

/-- The name that the definition of a struct tag gives to its type. -/
def ofTag (tag : String) : String := tag ++ "_t"

/-- The name under which the signature of a function-pointer field is registered. -/
def ofSignature (struct field : String) : String := struct ++ "." ++ field

/-- The spelling of a type that stands for no value and for an empty parameter list. -/
def void : String := "void"

end HeaderTypes.TypeName
