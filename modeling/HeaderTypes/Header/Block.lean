import HeaderTypes.Failure
import HeaderTypes.Header.Comment
import HeaderTypes.TypeName

namespace HeaderTypes
open Text

/-- A struct definition: the name it gives to its type, the text between its
braces without comments, and the line on which it begins. -/
structure StructBlock where
  name : String
  body : String
  line : Nat
  deriving DecidableEq, Repr

/-- What stands at a `typedef struct` that begins a line. -/
inductive Finding
  | block (block : StructBlock)
  /-- A declaration without a body. -/
  | forward (line : Nat)
  | malformed (block : MalformedBlock)
  deriving DecidableEq, Repr

namespace Header

/-- What follows the word `struct` at the head of a text. -/
def structWord? (s : List Char) : Option (List Char) :=
  match dropText? "struct".toList s with
  | some rest => if startsWith isWord rest then none else some rest
  | none => none

/-- What follows `typedef struct` at the head of a line, after a margin of
spaces and tabs and with blanks between the two words. -/
def opening? (s : List Char) : Option (List Char) :=
  match dropText? "typedef".toList (s.dropWhile fun c => c = ' ' || c = '\t') with
  | some rest => if startsWith isBlank rest then structWord? (dropBlanks rest) else none
  | none => none

/-- The text after a run of blanks and comments. A line comment that ends the
text gives its last character back, so that a head always has one to look at. -/
def skipGap : List Char → List Char
  | [] => []
  | '/' :: '/' :: s =>
    match after : Comment.afterLine s with
    | [] => s.getLast?.toList
    | c :: rest =>
      have _ : rest.length < s.length := by
        have := Comment.afterLine_length_le s
        rw [after, List.length_cons] at this; omega
      skipGap (c :: rest)
  | '/' :: '*' :: s =>
    match closed : Comment.afterClose? s with
    | some rest =>
      have _ := Comment.afterClose?_length_lt closed
      skipGap rest
    | none => '/' :: '*' :: s
  | c :: s => if isBlank c then skipGap s else c :: s
termination_by s => s.length

/-- The tag of a struct, if it has one, and the text after the gaps around it. -/
def readHead (s : List Char) : Option (List Char) × List Char :=
  match readName? (skipGap s) with
  | some (tag, rest) => (some tag, skipGap rest)
  | none => (none, skipGap s)

/-- The first `{` or `;` outside comments, with what follows it. -/
def declarationEnd? : List Char → Option (Char × List Char)
  | [] => none
  | '/' :: '/' :: s =>
    have _ := Comment.afterLine_length_le s
    declarationEnd? (Comment.afterLine s)
  | '/' :: '*' :: s =>
    match closed : Comment.afterClose? s with
    | some rest =>
      have _ := Comment.afterClose?_length_lt closed
      declarationEnd? rest
    | none => declarationEnd? ('*' :: s)
  | c :: s => if c = '{' || c = ';' then some (c, s) else declarationEnd? s
termination_by s => s.length

/-- The name of a closing marker at the head of a text, and what follows it.
Only a given name will do if there is one. -/
def markerName? : Option (List Char) → List Char → Option (List Char × List Char)
  | some name, s => (dropText? name s).map (name, ·)
  | none, s => readName? s

/-- A closing marker at the head of a text: `}`, a name and `;`, with blanks
between them, and what follows. -/
def marker? (name : Option (List Char)) : List Char → Option (List Char × List Char)
  | '}' :: s =>
    match markerName? name (dropBlanks s) with
    | some (found, rest) =>
      match dropBlanks rest with
      | ';' :: rest => some (found, rest)
      | _ => none
    | none => none
  | _ => none

/-- The text before the first closing marker, the marker's name, and the text after it. -/
def splitAtMarker? (name : Option (List Char)) :
    List Char → Option (List Char × List Char × List Char)
  | [] => none
  | c :: s =>
    match marker? name (c :: s) with
    | some (found, rest) => some ([], found, rest)
    | none => (splitAtMarker? name s).map fun (body, found, rest) => (c :: body, found, rest)

/-- Reads on after `typedef struct` on a given line: what is found there and
the text after it, or why nothing more can be read. -/
def readDefinition (line : Nat) (s : List Char) : Except MalformedBlock (Finding × List Char) :=
  let (tag, rest) := readHead s
  let name := tag.map fun tag => TypeName.ofTag (String.ofList tag)
  match rest with
  | [] => .error ⟨line, .headCut⟩
  | '{' :: inside =>
    match splitAtMarker? (name.map String.toList) inside with
    | some (body, found, rest) =>
      .ok (.block ⟨String.ofList found, String.ofList (Comment.strip body), line⟩, rest)
    | none => .error ⟨line, .unclosed name⟩
  | _ =>
    match declarationEnd? rest with
    | some (';', rest) => .ok (.forward line, rest)
    | some _ => .error ⟨line, .headCrowded⟩
    | none => .error ⟨line, .headCut⟩

/-- A place where a definition begins: its line, the text from the start of
that line, and the text after `typedef struct`. -/
structure Opening where
  line : Nat
  start : List Char
  rest : List Char

/-- The first line that begins with `typedef struct`. The text stands on a
given line, at the start of it or not. -/
def nextOpening? (line : Nat) (atStart : Bool) : List Char → Option Opening
  | [] => none
  | c :: s =>
    match if atStart then opening? (c :: s) else none with
    | some rest => some ⟨line, c :: s, rest⟩
    | none => if c = '\n' then nextOpening? (line + 1) true s else nextOpening? line false s

/-- The newlines of a text that stand before a part that ends it. -/
def newlinesBefore (rest s : List Char) : Nat := s.count '\n' - rest.count '\n'

theorem structWord?_length_le {s rest : List Char} (word : structWord? s = some rest) :
    rest.length ≤ s.length := by
  unfold structWord? at word
  split at word
  · rename_i tail dropped
    have same := congrArg List.length (dropText?_eq_some_iff.mp dropped)
    split at word
    · simp at word
    · simp only [Option.some.injEq] at word
      subst word
      rw [same, List.length_append]; omega
  · simp at word

theorem opening?_length_lt {s rest : List Char} (opens : opening? s = some rest) :
    rest.length < s.length := by
  unfold opening? at opens
  split at opens
  · rename_i tail dropped
    have same := congrArg List.length (dropText?_eq_some_iff.mp dropped)
    rw [List.length_append, show "typedef".toList.length = 7 from rfl] at same
    have margin := (List.dropWhile_sublist (l := s) fun c => c = ' ' || c = '\t').length_le
    split at opens
    · have word := structWord?_length_le opens
      have blanks := dropBlanks_length_le tail
      omega
    · simp at opens
  · simp at opens

theorem skipGap_length_le (s : List Char) : (skipGap s).length ≤ s.length := by
  fun_induction skipGap s with
  | case1 => simp
  | case2 s _ => cases s.getLast? <;> simp
  | case3 s c rest after shorter ih => simp only [List.length_cons] at *; omega
  | case4 s rest closed shorter ih => simp only [List.length_cons]; omega
  | case5 s _ => simp
  | case6 c s _ _ _ ih => simp only [List.length_cons]; omega
  | case7 c s _ _ _ => simp

theorem readHead_length_le (s : List Char) : (readHead s).2.length ≤ s.length := by
  have gap := skipGap_length_le s
  unfold readHead
  split
  · rename_i tag rest read
    have name := readName?_length_lt read
    have second := skipGap_length_le rest
    simp only; omega
  · exact gap

theorem declarationEnd?_length_lt {s rest : List Char} {c : Char}
    (found : declarationEnd? s = some (c, rest)) : rest.length < s.length := by
  fun_induction declarationEnd? s with
  | case1 => simp at found
  | case2 s shorter ih => have := ih found; simp only [List.length_cons]; omega
  | case3 s after closed shorter ih => have := ih found; simp only [List.length_cons]; omega
  | case4 s _ ih => have := ih found; simp only [List.length_cons] at *; omega
  | case5 d s _ _ _ =>
    simp only [Option.some.injEq, Prod.mk.injEq] at found
    rw [← found.2]; simp
  | case6 d s _ _ _ ih => have := ih found; simp only [List.length_cons]; omega

theorem markerName?_length_le {name : Option (List Char)} {s found rest : List Char}
    (read : markerName? name s = some (found, rest)) : rest.length ≤ s.length := by
  cases name with
  | none => exact Nat.le_of_lt (readName?_length_lt read)
  | some name =>
    obtain ⟨tail, dropped, same⟩ := Option.map_eq_some_iff.mp read
    cases same
    rw [dropText?_eq_some_iff.mp dropped, List.length_append]; omega

theorem marker?_length_lt {name : Option (List Char)} {s found rest : List Char}
    (marks : marker? name s = some (found, rest)) : rest.length < s.length := by
  unfold marker? at marks
  split at marks
  · rename_i s
    split at marks
    · rename_i after read
      have named := markerName?_length_le read
      have blanks := dropBlanks_length_le s
      have more := dropBlanks_length_le after
      split at marks
      · rename_i tail closes
        cases marks
        rw [closes, List.length_cons] at more
        rw [List.length_cons]; omega
      · simp at marks
    · simp at marks
  · simp at marks

theorem splitAtMarker?_length_lt {name : Option (List Char)} {s body found rest : List Char}
    (splits : splitAtMarker? name s = some (body, found, rest)) : rest.length < s.length := by
  induction s generalizing body with
  | nil => simp [splitAtMarker?] at splits
  | cons c s ih =>
    simp only [splitAtMarker?] at splits
    split at splits
    · rename_i marks
      simp only [Option.some.injEq, Prod.mk.injEq] at splits
      rw [← splits.2.2]; exact marker?_length_lt marks
    · simp only [Option.map_eq_some_iff] at splits
      obtain ⟨⟨inner, name', tail⟩, inside, same⟩ := splits
      simp only [Prod.mk.injEq] at same
      obtain ⟨_, rfl, rfl⟩ := same
      have := ih inside
      simp only [List.length_cons]; omega

theorem readDefinition_length_le {line : Nat} {s rest : List Char} {finding : Finding}
    (read : readDefinition line s = .ok (finding, rest)) : rest.length ≤ s.length := by
  have head := readHead_length_le s
  unfold readDefinition at read
  generalize readHead s = parts at head read
  obtain ⟨tag, afterHead⟩ := parts
  simp only at read head
  split at read
  · simp at read
  · split at read
    · rename_i splits
      simp only [Except.ok.injEq, Prod.mk.injEq] at read
      have := splitAtMarker?_length_lt splits
      simp only [List.length_cons] at head
      rw [← read.2]; omega
    · simp at read
  · split at read
    · rename_i ends
      simp only [Except.ok.injEq, Prod.mk.injEq] at read
      have := declarationEnd?_length_lt ends
      rw [← read.2]; omega
    · simp at read
    · simp at read

theorem nextOpening?_length_lt {line : Nat} {atStart : Bool} {s : List Char} {opening : Opening}
    (found : nextOpening? line atStart s = some opening) : opening.rest.length < s.length := by
  induction s generalizing line atStart with
  | nil => simp [nextOpening?] at found
  | cons c s ih =>
    simp only [nextOpening?] at found
    split at found
    · rename_i opens
      simp only [Option.some.injEq] at found
      rw [← found]
      split at opens
      · exact opening?_length_lt opens
      · simp at opens
    · split at found <;> have := ih found <;> simp only [List.length_cons] <;> omega

/-- All that is found in a text, in order. A malformed definition is the last
of it. The text stands on a given line, at the start of it or not. -/
def findingsFrom (line : Nat) (atStart : Bool) (s : List Char) : List Finding :=
  match found : nextOpening? line atStart s with
  | none => []
  | some opening =>
    match read : readDefinition opening.line opening.rest with
    | .error block => [.malformed block]
    | .ok (finding, rest) =>
      have _ := nextOpening?_length_lt found
      have _ := readDefinition_length_le read
      finding :: findingsFrom (opening.line + newlinesBefore rest opening.start) false rest
termination_by s.length

/-- All that is found in a header, in order. -/
def findings (text : String) : List Finding := findingsFrom 1 true text.toList

/-- The struct definitions of a header up to a malformed one, and that one. -/
def blocks (text : String) : List StructBlock × Option MalformedBlock :=
  ((findings text).filterMap fun
      | .block block => some block
      | _ => none,
    (findings text).findSome? fun
      | .malformed block => some block
      | _ => none)

end Header

end HeaderTypes
