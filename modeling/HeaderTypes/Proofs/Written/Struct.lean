import HeaderTypes.Proofs.Header.Definition
import HeaderTypes.Proofs.Written.Member

namespace HeaderTypes.Written
open Text Header

/-- A struct as it is defined. -/
structure Struct where
  name : Identifier
  members : List Member

/-- The lexemes between the braces of a definition. -/
inductive BodyLexemes : List Member → List Lexeme → Prop
  | nil : BodyLexemes [] []
  | cons {m ms ls rest} : m.Lexemes ls → BodyLexemes ms rest →
      BodyLexemes (m :: ms) (ls ++ .mark ';' :: rest)

/-- The lexemes from the closing brace of a definition on. -/
def closingLexemes (name : Identifier) : List Lexeme := [.mark '}', name.lexeme, .mark ';']

/-- The lexemes of a definition behind `typedef struct`. It may have a tag if
that gives the struct its name. -/
inductive Struct.Lexemes (d : Struct) : List Lexeme → Prop
  | anonymous {body} : BodyLexemes d.members body →
      d.Lexemes (.mark '{' :: (body ++ closingLexemes d.name))
  | tagged {tag : Identifier} {body} : d.name.text = TypeName.ofTag tag.text →
      BodyLexemes d.members body →
      d.Lexemes (tag.lexeme :: .mark '{' :: (body ++ closingLexemes d.name))

theorem ParameterLexemes.eq_of_mem {parameters : List (TypeExpr × Identifier)}
    {inside : List Lexeme} (lexemes : ParameterLexemes parameters inside) {c : Char}
    (member : .mark c ∈ inside) : c = '*' ∨ c = ',' := by
  cases lexemes with
  | empty => cases member
  | void => simp at member
  | @listed parameter parameters =>
    by_contra other
    obtain ⟨star, comma⟩ := not_or.mp other
    rcases List.mem_append.mp member with first | rest
    · exact not_mem_parameterLexemes parameter star first
    · obtain ⟨next, _, held⟩ := List.mem_flatMap.mp rest
      rcases List.mem_cons.mp held with same | held
      · exact comma (Lexeme.mark.inj same)
      · exact not_mem_parameterLexemes next star held

theorem Member.Lexemes.mem {m : Member} {ls : List Lexeme} (lexemes : m.Lexemes ls) {c : Char}
    (member : .mark c ∈ ls) : c ∈ ['*', '(', ')', ','] := by
  cases lexemes with
  | @direct type name =>
    rcases List.mem_append.mp member with typed | named
    · cases TypeExpr.eq_of_mem_lexemes typed
      decide
    · cases List.mem_singleton.mp named
  | @pointer returns tag name parameters inside inner =>
    rcases List.mem_append.mp member with typed | rest
    · cases TypeExpr.eq_of_mem_lexemes typed
      decide
    · simp only [declaratorLexemes, Identifier.lexeme, List.mem_cons, List.mem_append,
        Lexeme.mark.injEq, reduceCtorEq, false_or, List.not_mem_nil, or_false] at rest
      rcases rest with rfl | rfl | rfl | rfl | inside | rfl
      · decide
      · decide
      · decide
      · decide
      · rcases inner.eq_of_mem inside with rfl | rfl <;> decide
      · decide

theorem BodyLexemes.mem {members : List Member} {body : List Lexeme}
    (lexemes : BodyLexemes members body) {c : Char} (member : .mark c ∈ body) :
    c ∈ ['*', '(', ')', ',', ';'] := by
  induction lexemes with
  | nil => cases member
  | cons first _ ih =>
    rcases List.mem_append.mp member with here | rest
    · exact List.mem_append_left [';'] (first.mem here)
    · rcases List.mem_cons.mp rest with same | later
      · cases same; decide
      · exact ih later

theorem Member.Lexemes.ne_nil {m : Member} {ls : List Lexeme} (lexemes : m.Lexemes ls) : ls ≠ [] := by
  cases lexemes <;> simp [declaratorLexemes]

/-- Statements that say of fields what was written. -/
def States (members : List Member) (statements : List String) : Prop :=
  List.Forall₂ (fun (m : Member) statement =>
    Declaration.ofStatement? statement = some m.declaration) members statements

/-- The statements of a body are its members, however they are laid out. -/
theorem states_of_spells {members : List Member} {body : List Lexeme}
    (lexemes : BodyLexemes members body) {glued : Bool} {s trail : List Char}
    (spells : Spells glued body s) (blank : ∀ c ∈ trail, isBlank c) :
    States members (Declaration.statements (String.ofList (s ++ trail))) := by
  unfold States Declaration.statements
  rw [String.toList_ofList]
  induction lexemes generalizing glued s with
  | nil =>
    cases spells
    rw [List.nil_append, trimmedParts_of_blank (show isBlank ';' = false from rfl) blank]
    exact .nil
  | cons first _ ih =>
    obtain ⟨a, b, rfl, head, tail⟩ := spells.append_inv
    cases tail with
    | @mark _ gap _ _ t blank' _ rest =>
      have other : Lexeme.mark ';' ∉ _ := fun member => absurd (first.mem member) (by decide)
      obtain ⟨absent, some, core⟩ := head.part semicolon_mem_marks first.ne_nil other blank'
      have split : a ++ (gap ++ ';' :: t) ++ trail = (a ++ gap) ++ ';' :: (t ++ trail) := by simp
      rw [split, trimmedParts_append absent some]
      exact .cons (ofStatement?_of_spells first core) (ih rest)

/-- The closing marker of a definition is read, with the name it has to give or without one. -/
theorem marker?_of_spells {name : Identifier} {given : Option (List Char)}
    (allowed : ∀ n ∈ given, n = name.text.toList) {glued : Bool} {s : List Char}
    (spells : Spells glued [name.lexeme, .mark ';'] s) (rest : List Char) :
    marker? given ('}' :: (s ++ rest)) = some (name.text.toList, rest) := by
  cases spells with
  | @word _ gap _ _ _ blank _ _ _ after =>
    cases after with
    | @mark _ gap' _ _ _ blank' _ none =>
      cases none
      have named : ∀ n ∈ given, isName n := fun n member => allowed n member ▸ name.named
      refine (marker?_eq_some_iff named).mpr ⟨gap, gap', ?_, blank, blank', name.named, allowed⟩
      simp only [List.append_assoc, List.cons_append, List.nil_append]

/-- Behind its opening brace a definition is read to its closing marker. -/
theorem splitAtMarker?_of_spells {name : Identifier} {members : List Member} {body : List Lexeme}
    (lexemes : BodyLexemes members body) {given : Option (List Char)}
    (allowed : ∀ n ∈ given, n = name.text.toList) {s : List Char}
    (spells : Spells false (body ++ closingLexemes name) s) (rest : List Char) :
    ∃ inside, splitAtMarker? given (s ++ rest) = some (inside, name.text.toList, rest) ∧
      States members (Declaration.statements (String.ofList (Comment.strip inside))) := by
  obtain ⟨a, b, rfl, head, tail⟩ := spells.append_inv
  cases tail with
  | @mark _ gap _ _ t blank _ after =>
    have absent {c : Char} (visible : isBlank c = false) (other : isWord c = false)
        (foreign : c ∉ ['*', '(', ')', ',', ';']) : c ∉ a ++ gap := by
      rw [List.mem_append, not_or]
      exact ⟨head.not_mem visible other fun member => foreign (lexemes.mem member),
        fun member => Bool.false_ne_true (visible.symm.trans (blank c member))⟩
    refine ⟨a ++ gap, ?_, ?_⟩
    · have split : a ++ (gap ++ '}' :: t) ++ rest = (a ++ gap) ++ '}' :: (t ++ rest) := by simp
      rw [split]
      exact splitAtMarker?_append (absent rfl rfl (by decide)) (marker?_of_spells allowed after rest)
    · rw [Comment.strip_of_uncommented (Comment.uncommented_of_not_mem (absent rfl rfl (by decide)))]
      exact states_of_spells lexemes head blank

/-- The lexemes of an optional tag. -/
abbrev tagLexemes (tag : Option Identifier) : List Lexeme := tag.toList.map Identifier.lexeme

/-- The head of a definition is read to its brace. -/
theorem readHead_of_spells {tag : Option Identifier} {ls : List Lexeme} {s : List Char}
    (spells : Spells true (tagLexemes tag ++ .mark '{' :: ls) s) (rest : List Char) :
    ∃ t, readHead (s ++ rest) = (tag.map fun t => t.text.toList, '{' :: (t ++ rest)) ∧
      Spells false ls t := by
  cases tag with
  | none =>
    cases spells with
    | @mark _ gap _ _ t blank _ after =>
      refine ⟨t, ?_, after⟩
      rw [List.append_assoc]
      exact readHead_of_brace blank _
  | some tag =>
    cases spells with
    | @word _ gap _ _ _ blank _ _ _ after =>
      cases after with
      | @mark _ gap' _ _ t blank' _ after =>
        refine ⟨t, ?_, after⟩
        simp only [List.append_assoc, List.cons_append]
        exact readHead_of_tag blank tag.named blank' _

/-- The name that a tag gives is no other than the name of the struct. -/
theorem eq_of_givenName {tag : Option Identifier} {name : Identifier}
    (named : ∀ t ∈ tag, name.text = TypeName.ofTag t.text) :
    ∀ n ∈ (givenName (tag.map fun t => t.text.toList)).map String.toList,
      n = name.text.toList := by
  cases tag with
  | none => exact fun n given => absurd given (Option.not_mem_none n)
  | some tag =>
    intro n given
    rw [named tag rfl, ← String.ofList_toList (s := tag.text)]
    exact (Option.some.inj given).symm

theorem Struct.Lexemes.exists_tag {d : Struct} {ls : List Lexeme} (lexemes : d.Lexemes ls) :
    ∃ tag body, ls = tagLexemes tag ++ .mark '{' :: (body ++ closingLexemes d.name) ∧
      (∀ t ∈ tag, d.name.text = TypeName.ofTag t.text) ∧ BodyLexemes d.members body := by
  cases lexemes with
  | @anonymous body inside =>
    exact ⟨none, body, rfl, fun t given => absurd given (Option.not_mem_none t), inside⟩
  | @tagged tag body named inside =>
    exact ⟨some tag, body, rfl, fun t given => Option.some.inj given ▸ named, inside⟩

/-- A definition is read as a block of its name and with its fields, however it is laid out. -/
theorem readDefinition_of_spells {d : Struct} {ls : List Lexeme} (lexemes : d.Lexemes ls)
    {s : List Char} (spells : Spells true ls s) (line : Nat) (rest : List Char) :
    ∃ body, readDefinition line (s ++ rest) = .ok (.block ⟨d.name.text, body, line⟩, rest) ∧
      States d.members (Declaration.statements body) := by
  obtain ⟨tag, body, rfl, named, inside⟩ := lexemes.exists_tag
  obtain ⟨t, head, after⟩ := readHead_of_spells spells rest
  obtain ⟨text, split, stated⟩ :=
    splitAtMarker?_of_spells inside (eq_of_givenName named) after rest
  refine ⟨_, ?_, stated⟩
  rw [readDefinition_of_marker head split, String.ofList_toList]

end HeaderTypes.Written
