import HeaderTypes.Proofs.Written.TypeExpr
import Mathlib.Data.List.Forall2

namespace HeaderTypes
open Text

namespace Declaration

/-- A mark that a text does not hold is not read at the head of it. -/
theorem after?_eq_none {wanted : Char} {s : List Char} (absent : wanted ∉ s)
    (visible : ∃ c ∈ s, isBlank c = false) (rest : List Char) : after? wanted (s ++ rest) = none := by
  induction s with
  | nil => obtain ⟨c, member, _⟩ := visible; cases member
  | cons c s ih =>
    obtain ⟨other, later⟩ := not_or.mp (mt List.mem_cons.mpr absent)
    by_cases blank : isBlank c
    · have seen : ∃ c ∈ s, isBlank c = false := by
        obtain ⟨d, member, dark⟩ := visible
        rcases List.mem_cons.mp member with rfl | member
        · exact absurd blank (Bool.eq_false_iff.mp dark)
        · exact ⟨d, member, dark⟩
      rw [after?, List.cons_append, dropBlanks, List.dropWhile_cons_of_pos blank]
      exact ih later seen
    · rw [after?, dropBlanks_of_visible (s := c :: s ++ rest) (Bool.eq_false_iff.mpr blank)]
      exact if_neg (Ne.symm other)

theorem declarator?_eq_none {s : List Char} (absent : '(' ∉ s)
    (visible : ∃ c ∈ s, isBlank c = false) (rest : List Char) : declarator? (s ++ rest) = none := by
  rw [declarator?, after?_eq_none absent visible rest]
  rfl

/-- No declarator begins within a text without parentheses that ends with no blank. -/
theorem splitDeclarator?_append {s : List Char} (absent : '(' ∉ s)
    (final : startsWith isBlank s.reverse = false) (rest : List Char) :
    splitDeclarator? (s ++ rest) =
      (splitDeclarator? rest).map fun (before, parts) => (s ++ before, parts) := by
  induction s with
  | nil => simp
  | cons c s ih =>
    have visible : ∃ d ∈ c :: s, isBlank d = false := by
      cases reversed : (c :: s).reverse with
      | nil => simp at reversed
      | cons d before =>
        rw [reversed] at final
        exact ⟨d, List.mem_reverse.mp (reversed ▸ List.mem_cons_self), final⟩
    have last : startsWith isBlank s.reverse = false := by
      cases s with
      | nil => rfl
      | cons d s => rwa [List.reverse_cons, startsWith_append (by simp)] at final
    have none : declarator? (c :: (s ++ rest)) = none := declarator?_eq_none absent visible rest
    rw [List.cons_append, splitDeclarator?, none,
      ih (fun member => absent (List.mem_cons_of_mem _ member)) last, Option.map_map]
    rfl

theorem splitDeclarator?_of_declarator? {s : List Char} {parts : List Char × List Char × List Char}
    (read : declarator? s = some parts) : splitDeclarator? s = some ([], parts) := by
  cases s with
  | nil => cases read
  | cons c s => rw [splitDeclarator?, read]

end Declaration

namespace Written

/-- A name as C has it. -/
structure Identifier where
  text : String
  named : isName text.toList

def Identifier.lexeme (name : Identifier) : Lexeme := .word name.text.toList

/-- A field as it is declared. The return type of a function pointer may be `void`. -/
inductive Member
  | direct (type : TypeExpr) (name : Identifier)
  | pointer (returns : TypeExpr) (tag name : Identifier) (parameters : List (TypeExpr × Identifier))

def parameterLexemes (parameter : TypeExpr × Identifier) : List Lexeme :=
  parameter.1.lexemes ++ [parameter.2.lexeme]

/-- What may stand in the parentheses of a parameter list. -/
inductive ParameterLexemes : List (TypeExpr × Identifier) → List Lexeme → Prop
  | empty : ParameterLexemes [] []
  | void : ParameterLexemes [] [.word TypeName.void.toList]
  | listed {parameter parameters} : ParameterLexemes (parameter :: parameters)
      (parameterLexemes parameter ++
        parameters.flatMap fun next => .mark ',' :: parameterLexemes next)

/-- What stands after the return type of a function pointer. -/
def declaratorLexemes (tag name : Identifier) (inside : List Lexeme) : List Lexeme :=
  .mark '(' :: tag.lexeme :: .mark '*' :: name.lexeme :: .mark ')' :: .mark '(' ::
    (inside ++ [.mark ')'])

inductive Member.Lexemes : Member → List Lexeme → Prop
  | direct {type name} : Member.Lexemes (.direct type name) (type.lexemes ++ [name.lexeme])
  | pointer {returns tag name parameters inside} : ParameterLexemes parameters inside →
      Member.Lexemes (.pointer returns tag name parameters)
        (returns.lexemes ++ declaratorLexemes tag name inside)

theorem TypeExpr.mem_lexemes {type : TypeExpr} {l : Lexeme} (member : l ∈ type.lexemes) :
    (∃ w, l = .word w) ∨ l = .mark '*' := by
  obtain ⟨t, _, held⟩ := List.mem_flatMap.mp member
  cases t with
  | word w => exact Or.inl ⟨w, List.mem_singleton.mp held⟩
  | stars more => exact Or.inr (List.eq_of_mem_replicate held)

theorem TypeExpr.lexemes_ne_nil (type : TypeExpr) : type.lexemes ≠ [] := by
  obtain ⟨t, ts, same⟩ := List.exists_cons_of_ne_nil type.some
  rw [lexemes, same, List.flatMap_cons]
  cases t <;> simp [TypeToken.lexemes]

theorem TypeExpr.eq_of_mem_lexemes {type : TypeExpr} {c : Char}
    (member : .mark c ∈ type.lexemes) : c = '*' := by
  rcases TypeExpr.mem_lexemes member with ⟨w, same⟩ | same
  · cases same
  · exact Lexeme.mark.inj same

theorem TypeExpr.not_mem_lexemes (type : TypeExpr) {c : Char} (other : c ≠ '*') :
    Lexeme.mark c ∉ type.lexemes :=
  mt eq_of_mem_lexemes other

/-- What words and stars end with does not go on with a word behind them. -/
theorem startsWith_isPlain_reverse {ls : List Lexeme} (stars : ∀ {c}, Lexeme.mark c ∈ ls → c = '*')
    {glued : Bool} {s gap : List Char} (spells : Spells glued ls s) (blank : ∀ c ∈ gap, isBlank c)
    (apart : glues glued ls = true → gap ≠ []) :
    startsWith TypeName.isPlain (gap.reverse ++ s.reverse) = false := by
  by_cases bare : gap = []
  · subst bare
    by_cases empty : ls = []
    · subst empty
      cases spells
      rfl
    -- without a gap they end with a star, for two words would be one
    · have marked : glues glued ls = false := Bool.eq_false_iff.mpr fun glued => apart glued rfl
      obtain ⟨c, before, member, rfl⟩ := spells.final_of_not_glues empty marked
      cases stars member
      simp [startsWith, TypeName.isPlain]
  · rw [startsWith_append (by simpa)]
    exact startsWith_isPlain_of_blank fun c member => blank c (List.mem_reverse.mp member)

/-- Before the name of a declaration stands its type. -/
theorem cutLastName?_of_spells {type : TypeExpr} {name : Identifier} {glued : Bool} {s : List Char}
    (spells : Spells glued (type.lexemes ++ [name.lexeme]) s) :
    Declaration.cutLastName? s = some (type.name.toList, name.text.toList) := by
  have trimmed : trim (s ++ []) = dropBlanks s := spells.trim nofun
  rw [List.append_nil] at trimmed
  obtain ⟨_, _, _, core, _⟩ := spells.dropBlanks
  obtain ⟨a, b, same, head, last⟩ := core.append_inv
  cases last with
  | @word _ gap w _ _ blank' apart some words rest =>
    cases rest
    have plain : ∀ c ∈ name.text.toList.reverse, TypeName.isPlain c := fun c member =>
      isPlain_of_isWord (words c (List.mem_reverse.mp member))
    have stop := startsWith_isPlain_reverse TypeExpr.eq_of_mem_lexemes head blank' apart
    have reversed : (a ++ (gap ++ (name.text.toList ++ []))).reverse =
        name.text.toList.reverse ++ (gap.reverse ++ a.reverse) := by simp
    have before : (gap.reverse ++ a.reverse).reverse = a ++ gap := by simp
    simp only [Declaration.cutLastName?, trimmed, same, reversed, takeWhile_append_stop plain stop,
      dropWhile_append_stop plain stop, List.reverse_reverse, before]
    rw [if_pos (by simp [name.named, head.ne_nil type.lexemes_ne_nil]),
      type.spelling_of_spells head blank']

theorem declarator?_of_spells {tag name : Identifier} {inside : List Lexeme} {glued : Bool}
    {s : List Char} (spells : Spells glued (declaratorLexemes tag name inside) s) :
    ∃ parameters gap, Declaration.declarator? s =
        some (tag.text.toList, name.text.toList, parameters ++ gap) ∧
      Spells false inside parameters ∧ ∀ c ∈ gap, isBlank c := by
  obtain ⟨s, opened, spells⟩ := spells.after?
  obtain ⟨s, tagged, spells⟩ := spells.readName? tag.named
  obtain ⟨s, starred, spells⟩ := spells.after?
  obtain ⟨s, named, spells⟩ := spells.readName? name.named
  obtain ⟨s, closed, spells⟩ := spells.after?
  obtain ⟨s, opened', spells⟩ := spells.after?
  obtain ⟨a, b, rfl, head, last⟩ := spells.append_inv
  cases last with
  | @mark _ gap _ _ _ blank _ rest =>
    cases rest
    refine ⟨a, gap, ?_, head, blank⟩
    have inner : Declaration.beforeLastParen? (a ++ (gap ++ [')'])) = some (a ++ gap) := by
      simp [Declaration.beforeLastParen?]
    simp only [Declaration.declarator?, opened, tagged, starred, named, closed, opened', inner,
      Option.bind_eq_bind, Option.bind_some]
    rfl

theorem not_mem_parameterLexemes (parameter : TypeExpr × Identifier) {c : Char} (other : c ≠ '*') :
    Lexeme.mark c ∉ parameterLexemes parameter := by
  intro member
  rcases List.mem_append.mp member with type | name
  · exact parameter.1.not_mem_lexemes other type
  · cases List.mem_singleton.mp name

theorem parameterLexemes_ne_nil (parameter : TypeExpr × Identifier) :
    parameterLexemes parameter ≠ [] := by
  simp [parameterLexemes]

/-- The parts of a list with commas between its entries are its entries. -/
theorem trimmedParts_of_spells {α : Type} {lexemes : α → List Lexeme}
    (some : ∀ entry, lexemes entry ≠ []) (absent : ∀ entry, .mark ',' ∉ lexemes entry)
    {entry : α} {entries : List α} {glued : Bool} {s trail : List Char}
    (spells : Spells glued (lexemes entry ++ entries.flatMap fun next => .mark ',' :: lexemes next) s)
    (blank : ∀ c ∈ trail, isBlank c) :
    List.Forall₂ (fun entry part => Spells false (lexemes entry) part) (entry :: entries)
      (trimmedParts ',' (s ++ trail)) := by
  induction entries generalizing entry glued s with
  | nil =>
    rw [List.flatMap_nil, List.append_nil] at spells
    obtain ⟨apart, filled, core⟩ := spells.part comma_mem_marks (some entry) (absent entry) blank
    rw [trimmedParts_of_not_mem apart filled]
    exact .cons core .nil
  | cons next entries ih =>
    obtain ⟨a, b, rfl, first, rest⟩ := spells.append_inv
    cases rest with
    | @mark _ gap _ _ t blank' _ rest =>
      obtain ⟨apart, filled, core⟩ := first.part comma_mem_marks (some entry) (absent entry) blank'
      have split : a ++ (gap ++ ',' :: t) ++ trail = (a ++ gap) ++ ',' :: (t ++ trail) := by simp
      rw [split, trimmedParts_append apart filled]
      exact .cons core (ih rest)

theorem parameterType_of_spells {parameter : TypeExpr × Identifier} {glued : Bool} {s : List Char}
    (spells : Spells glued (parameterLexemes parameter) s) :
    Declaration.parameterType s = parameter.1.name.toList := by
  rw [Declaration.parameterType, cutLastName?_of_spells spells]

/-- Parts are read as the types that are written in them, if each one is. -/
theorem map_parameterType {α : Type} {writes : α → List Char → Prop} {type : α → List Char}
    {parameters : List α} {parts : List (List Char)} (each : List.Forall₂ writes parameters parts)
    (reads : ∀ written part, writes written part → Declaration.parameterType part = type written) :
    parts.map Declaration.parameterType = parameters.map type := by
  rw [← List.forall₂_eq_eq_eq, List.forall₂_map_left_iff, List.forall₂_map_right_iff]
  exact (each.imp reads).flip

/-- A parameter with a name is not the word `void` alone. -/
theorem not_spells_void (parameter : TypeExpr × Identifier) {glued : Bool} :
    ¬ Spells glued (parameterLexemes parameter) TypeName.void.toList := by
  intro spells
  have none : Declaration.cutLastName? TypeName.void.toList = none := by decide +kernel
  cases none.symm.trans (cutLastName?_of_spells spells)

theorem parameterTypes_of_spells {parameters : List (TypeExpr × Identifier)} {inside : List Lexeme}
    (inner : ParameterLexemes parameters inside) {glued : Bool} {s gap : List Char}
    (spells : Spells glued inside s) (blank : ∀ c ∈ gap, isBlank c) :
    Declaration.parameterTypes (s ++ gap) = parameters.map (·.1.name.toList) := by
  cases inner with
  | empty =>
    cases spells
    rw [Declaration.parameterTypes, List.nil_append,
      trimmedParts_of_blank (show isBlank ',' = false from rfl) blank]
    rfl
  | void =>
    obtain ⟨absent, visible, _⟩ := spells.part comma_mem_marks (by simp) (by simp) blank
    have trimmed : trim (s ++ gap) = TypeName.void.toList := by
      rw [spells.trim blank]
      cases spells with
      | word blank' _ some words rest =>
        cases rest
        rw [dropBlanks_word blank' some words]
        rfl
    rw [Declaration.parameterTypes, trimmedParts_of_not_mem absent visible, trimmed]
    rfl
  | @listed parameter parameters =>
    have parts := trimmedParts_of_spells parameterLexemes_ne_nil
      (fun p => not_mem_parameterLexemes p (by decide)) spells blank
    have types := map_parameterType parts fun _ _ => parameterType_of_spells
    have other : trimmedParts ',' (s ++ gap) ≠ [TypeName.void.toList] := by
      intro same
      rw [same] at parts
      cases parts with
      | cons first _ => exact not_spells_void parameter first
    simp only [Declaration.parameterTypes]
    rw [if_neg other, types]

/-- What a field statement says of a field. -/
def Member.declaration : Member → Declaration
  | direct type name => .direct type.name name.text
  | pointer returns tag name parameters =>
    .pointer returns.name tag.text name.text (parameters.map (·.1.name))

/-- A function pointer is told from its statement by what is told from its parameter list. -/
theorem ofStatement?_of_pointer {returns : TypeExpr} {tag name : Identifier} {inside : List Lexeme}
    {arguments : List (List Char)} {glued : Bool} {s : List Char}
    (spells : Spells glued (returns.lexemes ++ declaratorLexemes tag name inside) s)
    (told : ∀ listed gap, Spells false inside listed → (∀ c ∈ gap, isBlank c) →
      Declaration.parameterTypes (listed ++ gap) = arguments) :
    Declaration.ofStatement? (String.ofList s) =
      some (.pointer returns.name tag.text name.text (arguments.map String.ofList)) := by
  obtain ⟨a, b, rfl, first, rest⟩ := spells.append_inv
  obtain ⟨listed, gap, read, inside', blank⟩ := declarator?_of_spells rest
  have absent : '(' ∉ a := first.not_mem rfl rfl (returns.not_mem_lexemes (by decide))
  have split : Declaration.splitDeclarator? (a ++ b) =
      some (a, tag.text.toList, name.text.toList, listed ++ gap) := by
    rw [Declaration.splitDeclarator?_append absent first.final,
      Declaration.splitDeclarator?_of_declarator? read]
    simp
  have spelled : TypeName.spelling (a ++ []) = returns.name.toList :=
    returns.spelling_of_spells first nofun
  rw [List.append_nil] at spelled
  simp only [Declaration.ofStatement?, String.toList_ofList, split, spelled,
    told listed gap inside' blank, String.ofList_toList]

/-- A field is read back from its statement, however it is laid out. -/
theorem ofStatement?_of_spells {m : Member} {ls : List Lexeme} (lexemes : m.Lexemes ls)
    {glued : Bool} {s : List Char} (spells : Spells glued ls s) :
    Declaration.ofStatement? (String.ofList s) = some m.declaration := by
  cases lexemes with
  | @direct type name =>
    have absent : '(' ∉ s := by
      refine spells.not_mem rfl rfl fun member => ?_
      rcases List.mem_append.mp member with typed | named
      · exact type.not_mem_lexemes (by decide) typed
      · cases List.mem_singleton.mp named
    have whole : Declaration.splitDeclarator? s = none := by
      have blocked := Declaration.splitDeclarator?_append absent spells.final []
      rwa [List.append_nil] at blocked
    simp only [Declaration.ofStatement?, String.toList_ofList, whole,
      cutLastName?_of_spells spells, Option.map_some, String.ofList_toList]
    rfl
  | @pointer returns tag name parameters inside inner =>
    have read := ofStatement?_of_pointer spells fun listed gap inside' blank =>
      parameterTypes_of_spells inner inside' blank
    rw [read, List.map_map]
    simp [Member.declaration, Function.comp_def]

end Written

end HeaderTypes
