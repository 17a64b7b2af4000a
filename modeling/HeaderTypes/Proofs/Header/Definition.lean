import HeaderTypes.Header.Block
import HeaderTypes.Proofs.Comment.Uncommented
import HeaderTypes.Proofs.Header.Names

namespace HeaderTypes.Header
open Text

theorem skipGap_cons {c : Char} {s : List Char} (none : Comment.begins c s = false) :
    skipGap (c :: s) = if isBlank c then skipGap s else c :: s := by
  rw [skipGap]
  · exact Comment.not_line_of_begins none
  · exact Comment.not_block_of_begins none

/-- A line comment is a gap, unless it ends the text. -/
theorem skipGap_of_line {s : List Char} (filled : Comment.afterLine s ≠ []) :
    skipGap ('/' :: '/' :: s) = skipGap (Comment.afterLine s) := by
  rw [skipGap]
  split
  · rename_i empty
    exact absurd empty filled
  · rename_i after
    exact congrArg skipGap after.symm

theorem declarationEnd?_cons {c : Char} {s : List Char} (none : Comment.begins c s = false) :
    declarationEnd? (c :: s) =
      if c = '{' || c = ';' then some (c, s) else declarationEnd? s := by
  rw [declarationEnd?]
  · exact Comment.not_line_of_begins none
  · exact Comment.not_block_of_begins none

theorem skipGap_of_visible {c : Char} (visible : isBlank c = false) (other : c ≠ '/')
    (s : List Char) : skipGap (c :: s) = c :: s := by
  rw [skipGap_cons (Comment.begins_of_ne other s), if_neg (Bool.eq_false_iff.mp visible)]

theorem skipGap_append {gap : List Char} (blank : ∀ c ∈ gap, isBlank c) (s : List Char) :
    skipGap (gap ++ s) = skipGap s := by
  induction gap with
  | nil => rfl
  | cons c gap ih =>
    obtain ⟨first, others⟩ := List.forall_mem_cons.mp blank
    have other : c ≠ '/' := by
      rintro rfl
      exact absurd first (by decide)
    rw [List.cons_append, skipGap_cons (Comment.begins_of_ne other _), if_pos first, ih others]

theorem skipGap_brace {gap : List Char} (blank : ∀ c ∈ gap, isBlank c) (s : List Char) :
    skipGap (gap ++ '{' :: s) = '{' :: s := by
  rw [skipGap_append blank]
  exact skipGap_of_visible rfl (by decide) s

theorem readHead_of_brace {gap : List Char} (blank : ∀ c ∈ gap, isBlank c) (s : List Char) :
    readHead (gap ++ '{' :: s) = (none, '{' :: s) := by
  rw [readHead, skipGap_brace blank]
  rfl

theorem readHead_of_tag {gap tag margin : List Char} (blank : ∀ c ∈ gap, isBlank c)
    (named : isName tag) (blank' : ∀ c ∈ margin, isBlank c) (s : List Char) :
    readHead (gap ++ (tag ++ (margin ++ '{' :: s))) = (some tag, '{' :: s) := by
  have gone : skipGap (gap ++ (tag ++ (margin ++ '{' :: s))) = tag ++ (margin ++ '{' :: s) := by
    obtain ⟨c, tail, rfl, start, _⟩ := isName_iff.mp named
    have word := isWord_of_isNameStart start
    have other : c ≠ '/' := by
      rintro rfl
      exact absurd word (by decide)
    rw [skipGap_append blank, List.cons_append]
    exact skipGap_of_visible (isBlank_of_isWord word) other _
  have stop : startsWith isWord (margin ++ '{' :: s) = false := by
    cases margin with
    | nil => rfl
    | cons d margin => exact isWord_of_isBlank (blank' d List.mem_cons_self)
  have read := readName?_eq_some_iff.mpr ⟨rfl, named, stop⟩
  simp only [readHead, gone, read, skipGap_brace blank']

/-- A closing marker is a brace, a name and a semicolon with blanks between them. -/
theorem marker?_eq_some_iff {name : Option (List Char)} (named : ∀ n ∈ name, isName n)
    {s found rest : List Char} :
    marker? name s = some (found, rest) ↔ ∃ gap gap',
      s = '}' :: (gap ++ (found ++ (gap' ++ ';' :: rest))) ∧ (∀ c ∈ gap, isBlank c) ∧
        (∀ c ∈ gap', isBlank c) ∧ isName found ∧ ∀ n ∈ name, n = found := by
  constructor
  · intro marks
    unfold marker? at marks
    split at marks
    · rename_i s
      split at marks
      · rename_i found' after read
        split at marks
        · rename_i rest' closes
          cases Option.some.inj marks
          have parts : dropBlanks s = found ++ after ∧ isName found ∧ ∀ n ∈ name, n = found := by
            cases name with
            | none =>
              obtain ⟨same, named, -⟩ := readName?_eq_some_iff.mp read
              exact ⟨same, named, nofun⟩
            | some n =>
              obtain ⟨tail, dropped, same⟩ := Option.map_eq_some_iff.mp read
              cases same
              exact ⟨dropText?_eq_some_iff.mp dropped, named _ rfl, fun n member => (Option.some.inj member).symm⟩
          obtain ⟨same, isNamed, given⟩ := parts
          refine ⟨s.takeWhile isBlank, after.takeWhile isBlank, ?_, fun _ => List.mem_takeWhile_imp,
            fun _ => List.mem_takeWhile_imp, isNamed, given⟩
          rw [← closes, dropBlanks, List.takeWhile_append_dropWhile, ← same, dropBlanks,
            List.takeWhile_append_dropWhile]
        · cases marks
      · cases marks
    · cases marks
  · rintro ⟨gap, gap', rfl, blank, blank', isNamed, given⟩
    have stop : startsWith isWord (gap' ++ ';' :: rest) = false := by
      cases gap' with
      | nil => rfl
      | cons c gap' => exact isWord_of_isBlank (blank' c List.mem_cons_self)
    have visible : startsWith isBlank (found ++ (gap' ++ ';' :: rest)) = false := by
      obtain ⟨c, tail, rfl, start, -⟩ := isName_iff.mp isNamed
      exact isBlank_of_isWord (isWord_of_isNameStart start)
    have read : markerName? name (found ++ (gap' ++ ';' :: rest)) =
        some (found, gap' ++ ';' :: rest) := by
      cases name with
      | none => exact readName?_eq_some_iff.mpr ⟨rfl, isNamed, stop⟩
      | some n =>
        cases given n rfl
        exact congrArg (Option.map _) (dropText?_eq_some_iff.mpr rfl)
    have closes : dropBlanks (gap' ++ ';' :: rest) = ';' :: rest := by
      rw [dropBlanks_append blank']
      exact dropBlanks_of_visible rfl
    simp only [marker?, dropBlanks_append blank, dropBlanks_of_visible visible, read, closes]

theorem splitAtMarker?_append {name : Option (List Char)} {inside s found rest : List Char}
    (absent : '}' ∉ inside) (marks : marker? name s = some (found, rest)) :
    splitAtMarker? name (inside ++ s) = some (inside, found, rest) := by
  induction inside with
  | nil =>
    cases s with
    | nil => cases marks
    | cons c s => rw [List.nil_append, splitAtMarker?, marks]
  | cons c inside ih =>
    obtain ⟨other, later⟩ := not_or.mp (mt List.mem_cons.mpr absent)
    have none : marker? name (c :: (inside ++ s)) = none := by
      rw [marker?]
      intro t same
      exact other (List.cons.inj same).1.symm
    rw [List.cons_append, splitAtMarker?, none, ih later]
    rfl

/-- The name that a definition has to give, if its tag says so. -/
abbrev givenName (tag : Option (List Char)) : Option String :=
  tag.map fun tag => TypeName.ofTag (String.ofList tag)

theorem isName_of_mem_givenName {s rest : List Char} {tag : Option (List Char)}
    (head : readHead s = (tag, rest)) : ∀ n ∈ (givenName tag).map String.toList, isName n := by
  cases tag with
  | none => nofun
  | some tag =>
    intro n member
    cases member
    exact isName_ofTag (isName_of_readHead head)

section Reading
variable {s rest : List Char} {tag : Option (List Char)}

theorem readDefinition_of_empty (head : readHead s = (tag, [])) (line : Nat) :
    readDefinition line s = .error ⟨line, .headCut⟩ := by
  simp only [readDefinition, head]

theorem readDefinition_of_marker (head : readHead s = (tag, '{' :: rest))
    {body found after : List Char}
    (split : splitAtMarker? ((givenName tag).map String.toList) rest = some (body, found, after))
    (line : Nat) : readDefinition line s =
      .ok (.block ⟨String.ofList found, String.ofList (Comment.strip body), line⟩, after) := by
  simp only [readDefinition, head, split]

theorem readDefinition_of_no_marker (head : readHead s = (tag, '{' :: rest))
    (unclosed : splitAtMarker? ((givenName tag).map String.toList) rest = none) (line : Nat) :
    readDefinition line s = .error ⟨line, .unclosed (givenName tag)⟩ := by
  simp only [readDefinition, head, unclosed]

variable (head : readHead s = (tag, rest)) (filled : rest ≠ [])
  (other : startsWith (· = '{') rest = false)

include head filled other

/-- Without a brace behind its head a definition is a declaration. -/
theorem readDefinition_of_semicolon {after : List Char}
    (ends : declarationEnd? rest = some (';', after)) (line : Nat) :
    readDefinition line s = .ok (.forward line, after) := by
  simp only [readDefinition, head]
  split
  · exact absurd rfl filled
  · cases other
  · simp only [ends]

theorem readDefinition_of_late_brace {c : Char} {after : List Char}
    (ends : declarationEnd? rest = some (c, after)) (different : c ≠ ';') (line : Nat) :
    readDefinition line s = .error ⟨line, .headCrowded⟩ := by
  simp only [readDefinition, head]
  split
  · exact absurd rfl filled
  · cases other
  · simp only [ends]
    split
    · rename_i same
      cases same
      exact absurd rfl different
    · rfl
    · rename_i none
      cases none

theorem readDefinition_of_no_end (endless : declarationEnd? rest = none) (line : Nat) :
    readDefinition line s = .error ⟨line, .headCut⟩ := by
  simp only [readDefinition, head]
  split
  · exact absurd rfl filled
  · cases other
  · simp only [endless]

end Reading

/-- What was read is a definition up to its marker, or a declaration up to its semicolon. -/
theorem readDefinition_cases {line : Nat} {s rest : List Char} {finding : Finding}
    (read : readDefinition line s = .ok (finding, rest)) :
    (∃ tag inside body found, readHead s = (tag, '{' :: inside) ∧
      splitAtMarker? ((givenName tag).map String.toList) inside = some (body, found, rest) ∧
      finding = .block ⟨String.ofList found, String.ofList (Comment.strip body), line⟩) ∨
    ∃ tag after, readHead s = (tag, after) ∧ after ≠ [] ∧ startsWith (· = '{') after = false ∧
      declarationEnd? after = some (';', rest) ∧ finding = .forward line := by
  unfold readDefinition at read
  generalize readHead s = head at read
  obtain ⟨tag, after⟩ := head
  dsimp only at read
  split at read
  · cases read
  · split at read
    · rename_i split
      cases read
      exact Or.inl ⟨tag, _, _, _, rfl, split, rfl⟩
    · cases read
  · rename_i empty brace
    split at read
    · rename_i ends
      cases read
      refine Or.inr ⟨tag, after, rfl, empty, ?_, ends, rfl⟩
      cases after with
      | nil => rfl
      | cons c after => exact decide_eq_false fun same => brace after (same ▸ rfl)
    · cases read
    · cases read

end HeaderTypes.Header
