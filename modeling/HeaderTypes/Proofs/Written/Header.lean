import HeaderTypes.Proofs.Header.Search
import HeaderTypes.Proofs.Written.Struct

namespace HeaderTypes.Written
open Text Header

/-- What may stand before a definition, so that it begins a line: blanks up to
a newline, and a margin of spaces and tabs. The first line needs no newline. -/
def LineStart (first : Bool) (lead : List Char) : Prop :=
  ∃ before margin, lead = before ++ margin ∧ (∀ c ∈ margin, c = ' ' || c = '\t') ∧
    (first = true ∧ before = [] ∨ ∃ gap, before = gap ++ ['\n'] ∧ ∀ c ∈ gap, isBlank c)

/-- The text of a header that defines some structs and has nothing else in it. -/
inductive HeaderText : (first : Bool) → List Struct → List Char → Prop
  | done {first s} : (∀ c ∈ s, isBlank c) → HeaderText first [] s
  | next {first lead d ls s ds rest} : LineStart first lead → d.Lexemes ls →
      Spells true (.word "struct".toList :: ls) s → HeaderText false ds rest →
      HeaderText first (d :: ds) (lead ++ ("typedef".toList ++ (s ++ rest)))

/-- A block of the name and with the fields of a struct. -/
def Describes (d : Struct) (block : StructBlock) : Prop :=
  block.name = d.name.text ∧ States d.members (Declaration.statements block.body)

theorem Struct.Lexemes.ne_nil {d : Struct} {ls : List Lexeme} (lexemes : d.Lexemes ls) : ls ≠ [] := by
  cases lexemes <;> simp

theorem opening?_of_spells {margin : List Char} (blank : ∀ c ∈ margin, c = ' ' || c = '\t')
    {ls : List Lexeme} (some : ls ≠ []) {s : List Char}
    (spells : Spells true (.word "struct".toList :: ls) s) (rest : List Char) :
    ∃ t, opening? (margin ++ ("typedef".toList ++ (s ++ rest))) = Option.some (t ++ rest) ∧
      Spells true ls t := by
  cases spells with
  | @word _ gap _ _ t blank' apart _ _ after =>
    have stop := after.startsWith_isWord_append some rest
    refine ⟨t, opening?_eq_some_iff.mpr ⟨margin, gap, ?_, blank, apart rfl, blank', stop⟩, after⟩
    rw [List.append_assoc, List.append_assoc]

/-- The next definition of a header is found at the start of its line. -/
theorem nextOpening?_of_spells {first : Bool} {lead : List Char} (start : LineStart first lead)
    {ls : List Lexeme} (some : ls ≠ []) {s : List Char}
    (spells : Spells true (.word "struct".toList :: ls) s) (rest : List Char) (line : Nat) :
    ∃ later begun t, nextOpening? line first (lead ++ ("typedef".toList ++ (s ++ rest))) =
      Option.some ⟨later, begun, t ++ rest⟩ ∧ Spells true ls t := by
  obtain ⟨before, margin, rfl, blank, place⟩ := start
  obtain ⟨t, opens, after⟩ := opening?_of_spells blank some spells rest
  rcases place with ⟨rfl, rfl⟩ | ⟨gap, rfl, blank'⟩
  · rw [List.nil_append]
    exact ⟨_, _, t, nextOpening?_of_opening? opens line, after⟩
  · obtain ⟨later, same⟩ := nextOpening?_append_newline blank' line first
      (margin ++ ("typedef".toList ++ (s ++ rest)))
    have split : gap ++ ['\n'] ++ margin ++ ("typedef".toList ++ (s ++ rest)) =
        gap ++ '\n' :: (margin ++ ("typedef".toList ++ (s ++ rest))) := by simp
    rw [split, same]
    exact ⟨_, _, t, nextOpening?_of_opening? opens later, after⟩

/-- What is found in the text of a header is its structs, each as a block, in their order. -/
theorem findingsFrom_of_headerText {first : Bool} {ds : List Struct} {s : List Char}
    (written : HeaderText first ds s) (line : Nat) :
    ∃ blocks : List StructBlock, findingsFrom line first s = blocks.map .block ∧
      List.Forall₂ Describes ds blocks := by
  induction written generalizing line with
  | done blank => exact ⟨[], findingsFrom_of_none (nextOpening?_of_blank blank line _), .nil⟩
  | @next _ lead d ls s ds rest start lexemes spells _ ih =>
    obtain ⟨later, begun, t, found, after⟩ :=
      nextOpening?_of_spells start lexemes.ne_nil spells rest line
    obtain ⟨body, read, stated⟩ := readDefinition_of_spells lexemes after later rest
    obtain ⟨blocks, others, describes⟩ := ih (later + newlinesBefore rest begun)
    refine ⟨⟨_, body, later⟩ :: blocks, ?_, .cons ⟨rfl, stated⟩ describes⟩
    rw [findingsFrom_of_opening found read, others, List.map_cons]

end HeaderTypes.Written
