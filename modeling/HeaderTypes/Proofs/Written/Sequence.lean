import HeaderTypes.Proofs.Written.Header

namespace HeaderTypes.Written
open Text Header

/-- What stands behind some blanks begins a line, with spaces and tabs before
it at most. The blanks stand at the start of a line or not. -/
def beginsLine : (atStart : Bool) → List Char → Bool
  | atStart, [] => atStart
  | atStart, c :: lead => beginsLine (c = '\n' || atStart && (c = ' ' || c = '\t')) lead

/-- A definition of a struct with any text between its braces in which there
are no braces and no comments. It may have a tag that gives it its name. -/
structure Definition where
  name : Identifier
  tag : Option Identifier
  named : ∀ t ∈ tag, name.text = TypeName.ofTag t.text
  body : List Char
  unopened : '{' ∉ body
  unclosed : '}' ∉ body
  plain : Comment.uncommented body

/-- The lexemes of a definition between `typedef` and its body. -/
def Definition.head (d : Definition) : List Lexeme :=
  .word "struct".toList :: (d.tag.toList.map Identifier.lexeme ++ [.mark '{'])

/-- The lexemes of a definition behind its body and the closing brace. -/
def Definition.close (d : Definition) : List Lexeme := [d.name.lexeme, .mark ';']

/-- A definition as it stands in a header, behind some blanks and laid out in
some way around its body. -/
structure Placed where
  lead : List Char
  definition : Definition
  head : List Char
  close : List Char
  blank : ∀ c ∈ lead, isBlank c
  opens : Spells true definition.head head
  closes : Spells false definition.close close

/-- The text of a definition. -/
def Placed.text (p : Placed) : List Char :=
  "typedef".toList ++ (p.head ++ (p.definition.body ++ '}' :: p.close))

theorem Placed.text_append (p : Placed) (s : List Char) : p.text ++ s =
    "typedef".toList ++ (p.head ++ ((p.definition.body ++ '}' :: p.close) ++ s)) := by
  unfold Placed.text
  rw [List.append_assoc, List.append_assoc]

/-- Definitions one after the other, and what follows the last of them. -/
def inSequence (trail : List Char) : List Placed → List Char
  | [] => trail
  | p :: ps => p.lead ++ (p.text ++ inSequence trail ps)

/-- The definitions of a sequence that begin a line. -/
def onLines : (atStart : Bool) → List Placed → List Definition
  | _, [] => []
  | atStart, p :: ps =>
    if beginsLine atStart p.lead then p.definition :: onLines false ps else onLines false ps

/-- What is found of a sequence: a block of the name and the body of each definition, and
any number of declarations without a body. -/
inductive Shows : List Definition → List Finding → Prop
  | nil : Shows [] []
  | forward {ds fs line} : Shows ds fs → Shows ds (.forward line :: fs)
  | block {d : Definition} {ds fs line} : Shows ds fs →
      Shows (d :: ds) (.block ⟨d.name.text, String.ofList d.body, line⟩ :: fs)

theorem lineStart_of_beginsLine {atStart : Bool} {lead : List Char}
    (blank : ∀ c ∈ lead, isBlank c) (begins : beginsLine atStart lead) : LineStart atStart lead := by
  induction lead generalizing atStart with
  | nil => exact ⟨[], [], rfl, nofun, Or.inl ⟨begins, rfl⟩⟩
  | cons c lead ih =>
    obtain ⟨first, others⟩ := List.forall_mem_cons.mp blank
    obtain ⟨before, margin, rfl, narrow, ⟨begun, rfl⟩ | ⟨gap, rfl, blank'⟩⟩ := ih others begins
    · rcases Bool.or_eq_true_iff.mp begun with newline | inMargin
      · cases of_decide_eq_true newline
        exact ⟨['\n'], margin, rfl, narrow, Or.inr ⟨[], rfl, nofun⟩⟩
      · obtain ⟨start, space⟩ := Bool.and_eq_true_iff.mp inMargin
        exact ⟨[], c :: margin, rfl, List.forall_mem_cons.mpr ⟨space, narrow⟩, Or.inl ⟨start, rfl⟩⟩
    · exact ⟨c :: gap ++ ['\n'], margin, rfl, narrow,
        Or.inr ⟨c :: gap, rfl, List.forall_mem_cons.mpr ⟨first, blank'⟩⟩⟩

theorem opening?_of_not_beginsLine {lead : List Char} (blank : ∀ c ∈ lead, isBlank c)
    (within : beginsLine true lead = false) (s : List Char) : opening? (lead ++ s) = none := by
  induction lead with
  | nil => cases within
  | cons c lead ih =>
    obtain ⟨first, others⟩ := List.forall_mem_cons.mp blank
    by_cases margin : c = ' ' || c = '\t'
    · rw [beginsLine, margin, Bool.and_self, Bool.or_true] at within
      rw [List.cons_append, opening?_of_margin margin, ih others within]
    · exact opening?_of_isBlank first margin _

/-- Blanks behind which no line begins are passed over. -/
theorem nextOpening?_append_lead {lead : List Char} (blank : ∀ c ∈ lead, isBlank c) {atStart : Bool}
    (within : beginsLine atStart lead = false) {searched : Bool} (weaker : searched → atStart)
    (line : Nat) (s : List Char) :
    ∃ later, nextOpening? line searched (lead ++ s) = nextOpening? later false s := by
  -- `beginsLine` stays at the start of a line within its margin, where the search has left it
  induction lead generalizing atStart searched line with
  | nil =>
    have idle : searched = false := Bool.eq_false_iff.mpr fun on =>
      Bool.false_ne_true (within.symm.trans (weaker on))
    exact ⟨line, by rw [idle]; rfl⟩
  | cons c lead ih =>
    have none : (if searched then opening? (c :: (lead ++ s)) else none) = Option.none := by
      split
      · rename_i on
        rw [weaker on] at within
        exact opening?_of_not_beginsLine blank within s
      · rfl
    have others := (List.forall_mem_cons.mp blank).2
    simp only [List.cons_append, nextOpening?, none]
    split
    · rename_i newline
      exact ih others within (by simp [newline]) (line + 1)
    · exact ih others within (fun on => absurd on Bool.false_ne_true) line

theorem Identifier.not_newline (name : Identifier) : '\n' ∉ name.text.toList :=
  not_mem_of_isName name.named rfl

/-- The head of a definition is passed over where it does not begin a line. -/
theorem nextOpening?_append_head {d : Definition} {head : List Char} (spells : Spells true d.head head)
    (line : Nat) (s : List Char) :
    ∃ later, nextOpening? line false ("typedef".toList ++ (head ++ s)) =
      nextOpening? later false s := by
  rw [nextOpening?_append_line line (by decide)]
  cases spells with
  | @word _ gap _ _ t blank _ _ _ after =>
    have none : opening? ("struct".toList ++ (t ++ s)) = Option.none :=
      opening?_of_visible (c := 's') rfl (by decide) _
    rw [List.append_assoc, List.append_assoc, nextOpening?_append_token blank (by decide) none]
    have brace : opening? (['{'] ++ s) = Option.none := opening?_of_visible rfl (by decide) s
    cases tagged : d.tag with
    | none =>
      rw [tagged] at after
      cases after with
      | @mark _ gap _ _ _ blank _ last =>
        cases last
        exact ⟨_, by rw [List.append_assoc, nextOpening?_append_token blank (by decide) brace]⟩
    | some tag =>
      rw [tagged] at after
      cases after with
      | @word _ gap _ _ t blank _ _ _ after =>
        cases after with
        | @mark _ gap' _ _ _ blank' _ last =>
          cases last
          have none := opening?_of_tag tag.named blank' s
          simp only [List.append_assoc]
          rw [← List.singleton_append] at none
          exact ⟨_, by rw [nextOpening?_append_token blank tag.not_newline none,
            nextOpening?_append_token blank' (by decide) brace]⟩

/-- Behind its head a definition is read up to its end. -/
theorem readDefinition_of_head {d : Definition} {t close : List Char}
    (spells : Spells true (d.tag.toList.map Identifier.lexeme ++ [.mark '{']) t)
    (closes : Spells false d.close close) (line : Nat) (s : List Char) :
    readDefinition line (t ++ (d.body ++ '}' :: close ++ s)) =
      .ok (.block ⟨d.name.text, String.ofList d.body, line⟩, s) := by
  obtain ⟨_, head, nil⟩ := readHead_of_spells spells (d.body ++ '}' :: close ++ s)
  cases nil
  have marks := marker?_of_spells (eq_of_givenName d.named) closes s
  rw [List.nil_append, List.append_assoc, List.cons_append] at head
  rw [List.append_assoc, List.cons_append,
    readDefinition_of_marker head (splitAtMarker?_append d.unclosed marks),
    Comment.strip_of_uncommented d.plain, String.ofList_toList]

/-- Declarations are all that is found in a text without an opening brace that
ends with a semicolon. -/
theorem Shows.append {ds : List Definition} {s : List Char}
    (shows : ∀ line, Shows ds (findingsFrom line false s)) (t : List Char)
    (plain : Comment.uncommented t) (unopened : '{' ∉ t) (line : Nat) (atStart : Bool) :
    Shows ds (findingsFrom line atStart (t ++ ';' :: s)) := by
  -- what opens in the text is read up to the next semicolon, so less of the text is left
  induction size : t.length using Nat.strong_induction_on generalizing t line atStart with
  | _ size ih =>
    subst size
    rcases nextOpening?_append_mark (by decide : isBlank ';' = false) rfl t s line atStart with
      ⟨later, passed⟩ | ⟨later, start, inside, tail, found⟩
    · rw [findingsFrom_congr passed]
      exact shows later
    · have plain' := Comment.uncommented_of_suffix tail plain
      have unopened' : '{' ∉ inside := fun member => unopened (tail.subset member)
      by_cases ends : ';' ∈ inside
      · obtain ⟨a, b, rfl, closed⟩ := List.eq_append_cons_of_mem ends
        have tail' : b <:+ a ++ ';' :: b := (List.suffix_cons _ _).trans (List.suffix_append _ _)
        have read := readDefinition_of_declaration (Comment.uncommented_of_prefix
          (List.prefix_append _ _) plain') (fun member => unopened' (List.mem_append_left _ member))
          closed later (b ++ ';' :: s)
        rw [← List.cons_append, ← List.append_assoc] at read
        rw [findingsFrom_of_opening found read]
        refine .forward (ih b.length ?_ b (Comment.uncommented_of_suffix tail' plain')
          (fun member => unopened' (tail'.subset member)) _ _ rfl)
        have := tail.length_le
        rw [List.length_append, List.length_cons] at this
        omega
      · rw [findingsFrom_of_opening found (readDefinition_of_declaration plain' unopened' ends later s)]
        exact .forward (shows _)

/-- A definition that does not begin a line gives no block. -/
theorem Shows.skips {ds : List Definition} {s : List Char}
    (shows : ∀ line, Shows ds (findingsFrom line false s)) {p : Placed} {atStart : Bool}
    (within : beginsLine atStart p.lead = false) (line : Nat) :
    Shows ds (findingsFrom line atStart (p.lead ++ (p.text ++ s))) := by
  obtain ⟨later, passed⟩ := nextOpening?_append_lead p.blank within id line (p.text ++ s)
  rw [findingsFrom_congr passed]
  obtain ⟨last, passed⟩ :=
    nextOpening?_append_head p.opens later ((p.definition.body ++ '}' :: p.close) ++ s)
  rw [p.text_append, findingsFrom_congr passed]
  have slashless : '/' ∉ p.close :=
    p.closes.not_mem rfl rfl (by simp [Definition.close, Identifier.lexeme])
  have unopened : '{' ∉ p.close :=
    p.closes.not_mem rfl rfl (by simp [Definition.close, Identifier.lexeme])
  obtain ⟨c, before, member, ends⟩ := p.closes.final_of_not_glues (List.cons_ne_nil _ _) rfl
  obtain rfl : c = ';' := by simpa [Definition.close, Identifier.lexeme] using member
  rw [ends, List.mem_append, not_or] at slashless unopened
  have split : (p.definition.body ++ '}' :: p.close) ++ s =
      (p.definition.body ++ '}' :: before) ++ ';' :: s := by simp [ends]
  rw [split]
  refine Shows.append shows _ ?_ ?_ last false
  · exact Comment.uncommented_append p.definition.plain (by decide)
      (Comment.uncommented_of_not_mem (by simp [slashless.1]))
  · simp [p.definition.unopened, unopened.1]

/-- A definition that begins a line gives its block. -/
theorem Shows.finds {ds : List Definition} {s : List Char}
    (shows : ∀ line, Shows ds (findingsFrom line false s)) {p : Placed} {atStart : Bool}
    (begins : beginsLine atStart p.lead) (line : Nat) :
    Shows (p.definition :: ds) (findingsFrom line atStart (p.lead ++ (p.text ++ s))) := by
  have start := lineStart_of_beginsLine p.blank begins
  obtain ⟨later, begun, t, found, after⟩ := nextOpening?_of_spells start (by simp) p.opens
    ((p.definition.body ++ '}' :: p.close) ++ s) line
  rw [p.text_append, findingsFrom_of_opening found (readDefinition_of_head after p.closes later s)]
  exact .block (shows _)

theorem shows_inSequence {trail : List Char} (blank : ∀ c ∈ trail, isBlank c) (ps : List Placed)
    (line : Nat) (atStart : Bool) :
    Shows (onLines atStart ps) (findingsFrom line atStart (inSequence trail ps)) := by
  induction ps generalizing line atStart with
  | nil =>
    rw [inSequence, findingsFrom_of_none (nextOpening?_of_blank blank line atStart)]
    exact .nil
  | cons p ps ih =>
    have rest line := ih line false
    rw [onLines, inSequence]
    split
    · rename_i begins
      exact Shows.finds rest begins line
    · rename_i within
      exact Shows.skips rest (Bool.eq_false_iff.mpr within) line

theorem Shows.blocks {ds : List Definition} {text : String} (shows : Shows ds (findings text)) :
    (Header.blocks text).1.map (fun block => (block.name, block.body)) =
        ds.map (fun d => (d.name.text, String.ofList d.body)) ∧
      (Header.blocks text).2 = none := by
  unfold Header.blocks
  generalize findings text = fs at shows
  induction shows with
  | nil => exact ⟨rfl, rfl⟩
  | forward _ ih => exact ih
  | block _ ih => exact ⟨congrArg (_ :: ·) ih.1, ih.2⟩

/-- The blocks of a sequence of definitions are those that begin a line, each with its
name and its body, in their order. The others are passed over, and none of them is a fault. -/
theorem blocks_inSequence (ps : List Placed) (trail : List Char) (blank : ∀ c ∈ trail, isBlank c) :
    (Header.blocks (String.ofList (inSequence trail ps))).1.map
          (fun block => (block.name, block.body)) =
        (onLines true ps).map (fun d => (d.name.text, String.ofList d.body)) ∧
      (Header.blocks (String.ofList (inSequence trail ps))).2 = none := by
  refine Shows.blocks ?_
  rw [findings, String.toList_ofList]
  exact shows_inSequence blank ps 1 true

/-- Three definitions, the second of them behind the first on its line. -/
def sharedLine : List Placed :=
  [{ lead := []
     definition := ⟨⟨"p_t", by decide⟩, none, nofun, " int i; ".toList, by decide, by decide, by decide⟩
     head := " struct \x7b".toList
     close := " p_t;".toList
     blank := nofun
     opens := by decide +kernel
     closes := by decide +kernel },
   { lead := [' ']
     definition := ⟨⟨"q_t", by decide⟩, none, nofun, " int j; ".toList, by decide, by decide, by decide⟩
     head := " struct \x7b".toList
     close := " q_t;".toList
     blank := List.forall_mem_singleton.mpr rfl
     opens := by decide +kernel
     closes := by decide +kernel },
   { lead := ['\n', '\t']
     definition := ⟨⟨"r_t", by decide⟩, some ⟨"r", by decide⟩, by simp; decide, "int k;".toList,
       by decide, by decide, by decide⟩
     head := "\nstruct r\x7b".toList
     close := "r_t ;".toList
     blank := List.forall_mem_cons.mpr ⟨rfl, List.forall_mem_singleton.mpr rfl⟩
     opens := by decide +kernel
     closes := by decide +kernel }]

theorem blocks_inSequence_sharedLine :
    (∀ c ∈ ['\n'], isBlank c) ∧
      (Header.blocks (String.ofList (inSequence ['\n'] sharedLine))).1.map
          (fun block => (block.name, block.body)) = [("p_t", " int i; "), ("r_t", "int k;")] ∧
      (Header.blocks (String.ofList (inSequence ['\n'] sharedLine))).2 = none := by
  have blank : ∀ c ∈ ['\n'], isBlank c := List.forall_mem_singleton.mpr rfl
  have found := blocks_inSequence sharedLine ['\n'] blank
  exact ⟨blank, found.1.trans (by decide +kernel), found.2⟩

/-- Not every definition of a sequence is found, even if there is nothing but
definitions and blanks. -/
theorem blocks_sharedLine_ne :
    inSequence [] (sharedLine.take 2) =
        "typedef struct { int i; } p_t; typedef struct { int j; } q_t;".toList ∧
      (Header.blocks "typedef struct { int i; } p_t; typedef struct { int j; } q_t;").1.map (·.name) ≠
        (sharedLine.take 2).map (·.definition.name.text) := by
  decide +kernel

end HeaderTypes.Written
