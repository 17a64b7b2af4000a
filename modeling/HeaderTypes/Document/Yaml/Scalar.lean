import HeaderTypes.Document.Yaml.Fault
import HeaderTypes.Document.Yaml.Line

namespace HeaderTypes.Document.Yaml

/-- From the head of a line on, the breaks of lines without text and the text
after them. No marker may begin a line. -/
def readBreaks (s : List Char) : Option (List Char × List Char) :=
  if isMarker s then none
  else
    match line : s.dropWhile isBlank with
    | [] => some ([], [])
    | c :: rest =>
      if isBreak c then
        have _ : rest.length < s.length := by
          have := (List.dropWhile_sublist (l := s) isBlank).length_le
          rw [line, List.length_cons] at this; omega
        (readBreaks rest).map fun (breaks, rest) => (breakText c :: breaks, rest)
      else some ([], c :: rest)
termination_by s.length

/-- The characters that a letter after a backslash stands for. -/
def escapes : List (Char × Char) :=
  [('0', '\x00'), ('a', '\x07'), ('b', '\x08'), ('t', '\t'), ('\t', '\t'), ('n', '\n'),
    ('v', '\x0B'), ('f', '\x0C'), ('r', '\r'), ('e', '\x1B'), (' ', ' '), ('"', '"'),
    ('\\', '\\'), ('/', '/'), ('N', '\x85'), ('_', '\u00A0'), ('L', '\u2028'), ('P', '\u2029')]

/-- The number of digits that spell a character after a backslash and a letter. -/
def digitCount? : Char → Option Nat
  | 'x' => some 2
  | 'u' => some 4
  | 'U' => some 8
  | _ => none

/-- The greatest code point. -/
def lastPoint : Nat := 0x10FFFF

/-- The code points that an escape stands for, read from behind its backslash.
A break there joins two lines without a blank. -/
def readEscape : List Char → Attempt (List Nat × List Char)
  | [] => .error .malformed
  | c :: s =>
    match escapes.lookup c, digitCount? c with
    | some e, _ => .ok ([e.toNat], s)
    | none, some count =>
      match Text.hexNumber? (s.take count) with
      | some point =>
        if s.length < count then .error .malformed
        else if lastPoint < point then .error (.noCharacter point)
        else .ok ([point], s.drop count)
      | none => .error .malformed
    | none, none =>
      if isBreak c then
        (Attempt.ofOption (readBreaks s)).map fun (breaks, rest) =>
          (breaks.map Char.toNat, rest)
      else .error .malformed

theorem readBreaks_length_le {s breaks rest : List Char}
    (read : readBreaks s = some (breaks, rest)) : rest.length ≤ s.length := by
  fun_induction readBreaks s generalizing breaks with
  | case1 => simp at read
  | case2 s _ _ => cases read; simp
  | case3 s _ c after _ _ shorter ih =>
    obtain ⟨⟨inner, last⟩, inside, same⟩ := Option.map_eq_some_iff.mp read
    cases same
    have := ih inside
    omega
  | case4 s _ c after line _ =>
    cases read
    have := (List.dropWhile_sublist (l := s) isBlank).length_le
    rw [line] at this; exact this

theorem readEscape_length_le {s rest : List Char} {points : List Nat}
    (read : readEscape s = .ok (points, rest)) : rest.length ≤ s.length := by
  cases s with
  | nil => simp [readEscape] at read
  | cons c s =>
    simp only [readEscape] at read
    split at read
    · cases read; simp
    · split at read
      · split at read
        · simp at read
        · split at read
          · simp at read
          · cases read; simp only [List.length_drop, List.length_cons]; omega
      · simp at read
    · split at read
      · cases breaks : readBreaks s with
        | none => simp [breaks, Attempt.ofOption, Except.map] at read
        | some pair =>
          obtain ⟨inner, last⟩ := pair
          simp only [breaks, Attempt.ofOption, Except.map, Except.ok.injEq, Prod.mk.injEq] at read
          have := readBreaks_length_le breaks
          rw [← read.2]; simp only [List.length_cons]; omega
      · simp at read

/-- Reads the code points between quotes, from behind the first of them. In
single quotes a quote is written twice, in double quotes a backslash begins an escape. -/
def readQuoted (double : Bool) : List Char → Attempt (List Nat × List Char)
  | [] => .error .malformed
  | c :: s =>
    if double && c = '"' then .ok ([], s)
    else if !double && c = '\'' then
      match s with
      | '\'' :: rest =>
        (readQuoted double rest).map fun (points, rest) => (c.toNat :: points, rest)
      | _ => .ok ([], s)
    else if double && c = '\\' then
      match read : readEscape s with
      | .error fault => .error fault
      | .ok (e, rest) =>
        have _ := readEscape_length_le read
        (readQuoted double rest).map fun (points, rest) => (e ++ points, rest)
    else if isBreak c then
      match read : readBreaks s with
      | none => .error .malformed
      | some (breaks, rest) =>
        have _ := readBreaks_length_le read
        (readQuoted double rest).map fun (points, rest) =>
          ((joined c breaks).map Char.toNat ++ points, rest)
    else
      let dropped := isBlank c && endsLine (s.dropWhile isBlank)
      (readQuoted double s).map fun (points, rest) =>
        (if dropped then points else c.toNat :: points, rest)
termination_by s => s.length

/-- The marks of flow collections. -/
def isFlowMark (c : Char) : Bool := ",[]\x7b\x7d".toList.contains c

/-- A text without quotes ends before a blank, a break or a colon that a blank
follows, and in a flow collection before its marks. -/
def endsPlain (inFlow : Bool) (c : Char) (s : List Char) : Bool :=
  isBlank c || isBreak c || c = ':' && (endsWord s || inFlow && Text.startsWith isFlowMark s) ||
    inFlow && (c = '?' || isFlowMark c)

/-- The longest word without quotes, and the text after it. -/
def plainWord (inFlow : Bool) : List Char → List Char × List Char
  | [] => ([], [])
  | c :: s =>
    if endsPlain inFlow c s then ([], c :: s)
    else
      let (word, rest) := plainWord inFlow s
      (c :: word, rest)

/-- What stands between two words: its part of the value, nothing if the second
word cannot belong to it, whether a line ends in it, and where the rest begins. -/
structure Gap where
  value : List Char
  lineEnded : Bool
  column : Nat
  rest : List Char

/-- Skips lines without text up to a given column of the line that has some.
There are no breaks to tell of if a marker comes. -/
def gapLines (column : Nat) : List Char → Option (List Char) × Nat × List Char
  | [] => (some [], column, [])
  | c :: s =>
    if column = 0 && isMarker (c :: s) then (none, 0, c :: s)
    else if c = ' ' then gapLines (column + 1) s
    else if isBreak c then
      let (breaks, column, rest) := gapLines 0 s
      (breaks.map (breakText c :: ·), column, rest)
    else (some [], column, c :: s)

/-- The gap at the head of a text. -/
def readGap (s : List Char) : Gap :=
  let spaces := s.takeWhile (· = ' ')
  match s.dropWhile (· = ' ') with
  | [] => ⟨spaces, false, 0, []⟩
  | c :: rest =>
    if isBreak c then
      match gapLines 0 rest with
      | (none, _, rest) => ⟨[], true, 0, rest⟩
      | (some breaks, column, rest) => ⟨joined c breaks, true, column, rest⟩
    else ⟨spaces, false, 0, c :: rest⟩

theorem plainWord_length (inFlow : Bool) (s : List Char) :
    (plainWord inFlow s).1.length + (plainWord inFlow s).2.length = s.length := by
  induction s with
  | nil => rfl
  | cons c s ih =>
    simp only [plainWord]
    split
    · simp
    · simp only [List.length_cons]; omega

theorem gapLines_length_le (column : Nat) (s : List Char) :
    (gapLines column s).2.2.length ≤ s.length := by
  fun_induction gapLines column s with
  | case1 => simp
  | case2 => simp
  | case3 _ s _ ih => simp only [List.length_cons]; omega
  | case4 _ c s _ _ _ _ _ _ same ih => rw [same] at ih; simp only [List.length_cons] at *; omega
  | case5 => simp

theorem readGap_length_le (s : List Char) : (readGap s).rest.length ≤ s.length := by
  have spaces := (List.dropWhile_sublist (l := s) (· = ' ')).length_le
  unfold readGap
  split
  · simp
  · rename_i c after same
    rw [same, List.length_cons] at spaces
    split
    · have lines := gapLines_length_le 0 after
      split <;> rename_i same <;> rw [same] at lines <;> simp only at * <;> omega
    · simp only [List.length_cons]; omega

/-- A text without quotes, whether a line ends behind it, and what follows. -/
structure Plain where
  text : List Char
  lineEnded : Bool
  rest : List Char

/-- Reads a text without quotes. In block collections its later lines are
further in than a given indentation. -/
def readPlain (inFlow : Bool) (indent : Int) (s : List Char) : Plain :=
  match word : plainWord inFlow s with
  | ([], _) => ⟨[], false, s⟩
  | (c :: cs, after) =>
    let gap := readGap after
    if gap.value = [] || gap.rest.head? = some '#' ||
        (gap.lineEnded && !inFlow && (gap.column : Int) ≤ indent) then
      ⟨c :: cs, gap.lineEnded, gap.rest⟩
    else
      have _ : (readGap after).rest.length < s.length := by
        have whole := plainWord_length inFlow s
        have shorter := readGap_length_le after
        rw [word] at whole; simp only [List.length_cons] at whole; omega
      let more := readPlain inFlow indent gap.rest
      if more.text = [] then ⟨c :: cs, gap.lineEnded, gap.rest⟩
      else ⟨c :: cs ++ gap.value ++ more.text, more.lineEnded, more.rest⟩
termination_by s.length

/-- How a block text ends: with no break, one, or all that are there. -/
inductive Chomping
  | strip
  | clip
  | keep

/-- The head of a block text: how it ends, how far in it is if that is told. -/
structure BlockHead where
  chomping : Chomping
  indent : Option Nat

def chomping? : Char → Option Chomping
  | '+' => some .keep
  | '-' => some .strip
  | _ => none

/-- A digit for an indentation; a block text is at least one column in. -/
def indentDigit? (c : Char) : Option Nat :=
  if '1' ≤ c && c ≤ '9' then some (c.toNat - '0'.toNat) else none

/-- The marks in the head of a block text, in either order, and the text after them. -/
def readMarks : List Char → BlockHead × List Char
  | [] => (⟨.clip, none⟩, [])
  | c :: s =>
    match chomping? c, indentDigit? c, s with
    | some chomping, _, d :: r =>
      match indentDigit? d with
      | some indent => (⟨chomping, some indent⟩, r)
      | none => (⟨chomping, none⟩, s)
    | some chomping, _, [] => (⟨chomping, none⟩, [])
    | none, some indent, d :: r =>
      match chomping? d with
      | some chomping => (⟨chomping, some indent⟩, r)
      | none => (⟨.clip, some indent⟩, s)
    | none, some indent, [] => (⟨.clip, some indent⟩, [])
    | none, none, _ => (⟨.clip, none⟩, c :: s)

/-- Skips blanks and a comment up to the end of a line, if nothing else is there. -/
def restOfLine? (s : List Char) : Option (List Char) :=
  let s := s.dropWhile (· = ' ')
  let s := if s.head? = some '#' then s.dropWhile (!isBreak ·) else s
  if endsLine s then some s.tail else none

/-- The breaks of the lines before the first with text, the greatest number of
spaces in front of one, the number in front of that line, and the text from there. -/
def leadingLines (column widest : Nat) : List Char → List Char × Nat × Nat × List Char
  | [] => ([], widest, column, [])
  | c :: s =>
    if c = ' ' then leadingLines (column + 1) (max widest (column + 1)) s
    else if isBreak c then
      let (breaks, rest) := leadingLines 0 widest s
      (breakText c :: breaks, rest)
    else ([], widest, column, c :: s)

/-- Skips spaces up to an indentation, and lines that end there: their breaks,
the column that is reached, and the text from there. -/
def skipLines (indent column : Nat) : List Char → List Char × Nat × List Char
  | [] => ([], column, [])
  | c :: s =>
    if c = ' ' && column < indent then skipLines indent (column + 1) s
    else if isBreak c then
      let (breaks, rest) := skipLines indent 0 s
      (breakText c :: breaks, rest)
    else ([], column, c :: s)

/-- The lines of a block text with what follows it: the break of the last line,
and those of the lines without text after it. -/
structure BlockLines where
  text : List Char
  lastBreak : List Char
  laterBreaks : List Char
  rest : List Char

theorem skipLines_length_le (indent column : Nat) (s : List Char) :
    (skipLines indent column s).2.2.length ≤ s.length := by
  fun_induction skipLines indent column s with
  | case1 => simp
  | case2 _ c s _ ih => simp only [List.length_cons]; omega
  | case3 _ c s _ _ _ _ same ih => rw [same] at ih; simp only [List.length_cons] at *; omega
  | case4 => simp

/-- Reads the lines that are at an indentation, the first of them from there
on. A folded text joins two lines when neither begins with a blank. -/
def readLines (folded : Bool) (indent : Nat) : List Char → BlockLines
  | [] => ⟨[], [], [], []⟩
  | c :: s =>
    match split : splitLine (c :: s) with
    | (line, ending, after) =>
      let lastBreak := (ending.map breakText).toList
      match skip : skipLines indent 0 after with
      | (breaks, column, rest) =>
        if column = indent && rest ≠ [] then
          have _ : rest.length < (c :: s).length := by
            have first := splitLine_length_lt c s
            have later := skipLines_length_le indent 0 after
            rw [split] at first; rw [skip] at later
            exact Nat.lt_of_le_of_lt later first
          let more := readLines folded indent rest
          let joint :=
            if folded && lastBreak = ['\n'] && !isBlank c && !Text.startsWith isBlank rest then
              if breaks = [] then [' '] else []
            else lastBreak
          ⟨line ++ joint ++ breaks ++ more.text, more.lastBreak, more.laterBreaks, more.rest⟩
        else ⟨line, lastBreak, breaks, rest⟩
termination_by s => s.length
decreasing_by assumption

/-- Reads a block text from behind its indicator. It is further in than the
collection around it, by as much as its head or else its first line tells. -/
def readBlock? (folded : Bool) (outer : Int) (s : List Char) : Option (List Char × List Char) := do
  let (head, s) := readMarks s
  if !endsWord s || Text.startsWith (· = '\t') s then none
  else
    let s ← restOfLine? s
    let least := max 1 (outer + 1).toNat
    let (indent, breaks, column, rest) := match head.indent with
      | some more =>
        let indent := least + more - 1
        (indent, skipLines indent 0 s)
      | none =>
        let (breaks, widest, column, rest) := leadingLines 0 0 s
        (max least widest, breaks, column, rest)
    let lines : BlockLines :=
      if column = indent && rest ≠ [] then
        let lines := readLines folded indent rest
        { lines with text := breaks ++ lines.text }
      else ⟨[], [], breaks, rest⟩
    let ending := match head.chomping with
      | .strip => []
      | .clip => lines.lastBreak
      | .keep => lines.lastBreak ++ lines.laterBreaks
    return (lines.text ++ ending, lines.rest)

end HeaderTypes.Document.Yaml
