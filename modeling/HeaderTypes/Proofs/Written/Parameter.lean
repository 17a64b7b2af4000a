import HeaderTypes.Proofs.Field.Grammar
import HeaderTypes.Proofs.Written.Member

namespace HeaderTypes
open Text

namespace Written

theorem glues_concat (glued : Bool) (ls : List Lexeme) (l : Lexeme) :
    glues glued (ls ++ [l]) = l.isWord := by
  induction ls generalizing glued with
  | nil => rfl
  | cons first ls ih => exact ih first.isWord

namespace TypeExpr

theorem spelling_eq (type : TypeExpr) {glued : Bool} {s : List Char}
    (spells : Spells glued type.lexemes s) : TypeName.spelling s = type.name.toList := by
  have whole : TypeName.spelling (s ++ []) = type.name.toList :=
    type.spelling_of_spells spells (List.forall_mem_nil _)
  rwa [List.append_nil] at whole

/-- A type expression cut before its last token, where that is a name and something stands before
it. -/
def cutName? (type : TypeExpr) : Option (TypeExpr × Identifier) :=
  match type.tokens.getLast? with
  | Option.some (.word w) =>
    if fit : isName w ∧ type.tokens.dropLast ≠ [] then
      Option.some (⟨type.tokens.dropLast, fit.2,
        fun t member => type.words t (List.dropLast_subset _ member), type.apart.dropLast⟩,
        ⟨String.ofList w, by rw [String.toList_ofList]; exact fit.1⟩)
    else none
  | _ => none

theorem cutName?_tokens {type shorter : TypeExpr} {name : Identifier}
    (cut : type.cutName? = Option.some (shorter, name)) :
    type.tokens = shorter.tokens ++ [.word name.text.toList] := by
  unfold cutName? at cut
  split at cut
  · rename_i w last
    obtain ⟨fit, same⟩ := Option.dite_none_right_eq_some.mp cut
    cases same
    obtain ⟨before, whole⟩ := List.getLast?_eq_some_iff.mp last
    simp only [whole, List.dropLast_concat, String.toList_ofList]
  · cases cut

theorem cutName?_ne_none {type : TypeExpr} {before : List TypeToken} {w : List Char}
    (same : type.tokens = before ++ [.word w]) (filled : before ≠ []) (named : isName w) :
    type.cutName? ≠ none := by
  have last : type.tokens.getLast? = Option.some (.word w) := by rw [same, List.getLast?_concat]
  have fit : isName w ∧ type.tokens.dropLast ≠ [] := by
    rw [same, List.dropLast_concat]
    exact ⟨named, filled⟩
  simp [cutName?, last, fit]

/-- A type loses something when it is cut. -/
theorem name_ne_of_cutName? {type shorter : TypeExpr} {name : Identifier}
    (cut : type.cutName? = Option.some (shorter, name)) : shorter.name ≠ type.name := by
  intro same
  have texts (t : TypeExpr) : TypeName.tokens t.name.toList = t.tokens.map (·.text) := by
    rw [toList_name, TypeName.tokens_intercalate (settled_of_apart t.words t.apart)]
  have tokens : shorter.tokens.map (·.text) = type.tokens.map (·.text) := by
    rw [← texts, ← texts, same]
  have lengths := congrArg List.length tokens
  rw [List.length_map, List.length_map, cutName?_tokens cut, List.length_append] at lengths
  simp at lengths

theorem lexemes_of_cutName? {type shorter : TypeExpr} {name : Identifier}
    (cut : type.cutName? = Option.some (shorter, name)) :
    type.lexemes = shorter.lexemes ++ [name.lexeme] := by
  rw [lexemes, cutName?_tokens cut, List.flatMap_append]
  rfl

end TypeExpr

/-- A type that is written alone is cut where its last token could be a name, and only there. -/
theorem cutName?_of_direct {type : TypeExpr} {s t n : List Char} (spells : Spells false type.lexemes s)
    (visible : startsWith isBlank s = false) (direct : Declaration.Direct s t n) :
    type.cutName? ≠ none := by
  obtain ⟨before, last, tokens⟩ := List.eq_nil_or_concat type.tokens |>.resolve_left type.some
  have split : type.lexemes = before.flatMap (·.lexemes) ++ last.lexemes := by
    rw [TypeExpr.lexemes, tokens, List.concat_eq_append, List.flatMap_append, List.flatMap_singleton]
  have stars : ∀ {c}, Lexeme.mark c ∈ before.flatMap (·.lexemes) → c = '*' := fun member =>
    TypeExpr.eq_of_mem_lexemes (split ▸ List.mem_append_left _ member)
  obtain ⟨names, types⟩ := direct.eq_last
  obtain ⟨d, final, apart'⟩ := direct.parted
  cases last with
  | stars more =>
    -- the text ends with a star and so with no name
    have marked : glues false type.lexemes = false := by
      rw [split, TypeToken.lexemes, List.replicate_succ', ← List.append_assoc]
      exact glues_concat _ _ _
    obtain ⟨c, front, member, rfl⟩ := spells.final_of_not_glues type.lexemes_ne_nil marked
    cases TypeExpr.eq_of_mem_lexemes member
    have none : n.reverse = [] := by
      rw [← names, List.reverse_append]
      rfl
    exact absurd (List.reverse_eq_nil_iff.mp none) (ne_nil_of_isName direct.named)
  | word w =>
    rw [split] at spells
    obtain ⟨a, b, rfl, head, rest⟩ := spells.append_inv
    cases rest with
    | @word _ gap _ _ _ blank apart some words rest =>
      cases rest
      have plain : ∀ c ∈ w.reverse, TypeName.isPlain c := fun c member =>
        isPlain_of_isWord (words c (List.mem_reverse.mp member))
      have stop := startsWith_isPlain_reverse stars head blank apart
      have reversed : (a ++ (gap ++ (w ++ []))).reverse = w.reverse ++ (gap.reverse ++ a.reverse) := by
        simp
      rw [reversed, takeWhile_append_stop plain stop] at names
      rw [reversed, dropWhile_append_stop plain stop] at types
      have named : isName w := List.reverse_inj.mp names ▸ direct.named
      refine TypeExpr.cutName?_ne_none (List.concat_eq_append .. ▸ tokens) (fun empty => ?_) named
      -- a single word has nothing before it to be cut from
      subst empty
      cases head
      have lead : gap = t := List.reverse_inj.mp (by simpa using types)
      subst lead
      have filled : gap ≠ [] := by
        rintro rfl
        cases final
      rw [List.nil_append, startsWith_append filled] at visible
      exact Bool.false_ne_true (visible.symm.trans (startsWith_of_mem blank filled))

/-- A type that is written alone is cut like a declaration. -/
theorem cutLastName?_of_type_spells {type : TypeExpr} {glued : Bool} {s : List Char}
    (spells : Spells glued type.lexemes s) :
    Declaration.cutLastName? s =
      type.cutName?.map fun cut => (cut.1.name.toList, cut.2.text.toList) := by
  cases cut : type.cutName? with
  | some found =>
    obtain ⟨shorter, name⟩ := found
    rw [TypeExpr.lexemes_of_cutName? cut] at spells
    exact cutLastName?_of_spells spells
  | none =>
    have trimmed : trim (s ++ []) = dropBlanks s := spells.trim (List.forall_mem_nil _)
    obtain ⟨_, _, _, core, visible⟩ := spells.dropBlanks
    have again : trim (dropBlanks s ++ []) = dropBlanks (dropBlanks s) := core.trim (List.forall_mem_nil _)
    rw [List.append_nil] at trimmed again
    rw [dropBlanks_of_visible visible] at again
    refine Option.eq_none_iff_forall_ne_some.mpr fun ⟨t, n⟩ found => ?_
    have inner : Declaration.cutLastName? (dropBlanks s) = some (t, n) := by
      simpa only [Declaration.cutLastName?, trimmed, again] using found
    obtain ⟨t', -, direct⟩ := (Declaration.cutLastName?_eq_some_iff again).mp inner
    exact cutName?_of_direct core visible direct cut

/-- A parameter, which need not have a name. -/
structure Parameter where
  type : TypeExpr
  name? : Option Identifier

namespace Parameter

def lexemes (p : Parameter) : List Lexeme := p.type.lexemes ++ (p.name?.map (·.lexeme)).toList

/-- The type that a parameter is read with. Without a name the last word of the type is taken for one
where it can be. -/
def reduced : Parameter → TypeExpr
  | ⟨type, some _⟩ => type
  | ⟨type, none⟩ => (type.cutName?.map (·.1)).getD type

/-- Parameters with commas between them. -/
def listLexemes : List Parameter → List Lexeme
  | [] => []
  | p :: ps => p.lexemes ++ ps.flatMap fun next => .mark ',' :: next.lexemes

theorem lexemes_ne_nil (p : Parameter) : p.lexemes ≠ [] := by simp [lexemes, p.type.lexemes_ne_nil]

theorem not_mem_lexemes (p : Parameter) {c : Char} (other : c ≠ '*') : .mark c ∉ p.lexemes := by
  intro member
  rcases List.mem_append.mp member with typed | named
  · exact p.type.not_mem_lexemes other typed
  · obtain ⟨name, -, same⟩ := Option.map_eq_some_iff.mp (Option.mem_toList.mp named)
    cases same

/-- The type is read whole exactly if the parameter has a name or the type no last word that could
be one. -/
theorem reduced_name_eq_iff (p : Parameter) :
    p.reduced.name = p.type.name ↔ p.name? = none → p.type.cutName? = none := by
  obtain ⟨type, name?⟩ := p
  cases name? with
  | some name => exact ⟨fun _ => nofun, fun _ => rfl⟩
  | none =>
    rw [reduced]
    cases cut : type.cutName? with
    | none => exact ⟨fun _ _ => rfl, fun _ => rfl⟩
    | some found =>
      constructor
      · intro same
        exact absurd same (TypeExpr.name_ne_of_cutName? cut)
      · intro uncut
        cases uncut rfl

theorem parameterType_of_spells {p : Parameter} {glued : Bool} {s : List Char}
    (spells : Spells glued p.lexemes s) : Declaration.parameterType s = p.reduced.name.toList := by
  obtain ⟨type, name?⟩ := p
  cases name? with
  | some name =>
    have named : Spells glued (parameterLexemes (type, name)) s := spells
    have whole := Written.parameterType_of_spells named
    exact whole
  | none =>
    rw [lexemes, Option.map_none, Option.toList_none, List.append_nil] at spells
    rw [Declaration.parameterType, cutLastName?_of_type_spells spells, reduced]
    cases type.cutName? with
    | some found => rfl
    | none =>
      exact type.spelling_eq spells

/-- The word `void` alone is spelled by no other parameter than the type `void` without a name. -/
theorem void_of_spells {p : Parameter} {glued : Bool}
    (spells : Spells glued p.lexemes TypeName.void.toList) :
    p.name? = none ∧ p.type.name = TypeName.void := by
  obtain ⟨type, name?⟩ := p
  cases name? with
  | some name => exact absurd spells (not_spells_void (type, name))
  | none =>
    rw [lexemes, Option.map_none, Option.toList_none, List.append_nil] at spells
    have whole := type.spelling_eq spells
    have void : TypeName.spelling TypeName.void.toList = TypeName.void.toList := by decide +kernel
    rw [void] at whole
    exact ⟨rfl, String.toList_inj.mp whole.symm⟩

/-- Parameters are not the one word `void`, which stands for none. -/
def NotVoid (ps : List Parameter) : Prop :=
  ∀ p, ps = [p] → p.name? = none → p.type.name ≠ TypeName.void

theorem parameterTypes_of_spells {ps : List Parameter} (other : NotVoid ps) {glued : Bool}
    {s gap : List Char} (spells : Spells glued (listLexemes ps) s) (blank : ∀ c ∈ gap, isBlank c) :
    Declaration.parameterTypes (s ++ gap) = ps.map (·.reduced.name.toList) := by
  cases ps with
  | nil => exact Written.parameterTypes_of_spells .empty spells blank
  | cons p ps =>
    have parts := trimmedParts_of_spells lexemes_ne_nil (fun p => p.not_mem_lexemes (by decide))
      spells blank
    have types := map_parameterType parts fun _ _ => parameterType_of_spells
    have void : trimmedParts ',' (s ++ gap) ≠ [TypeName.void.toList] := by
      intro same
      rw [same] at parts
      cases parts with
      | cons first rest =>
        cases rest
        obtain ⟨unnamed, same'⟩ := void_of_spells first
        exact other p rfl unnamed same'
    simp only [Declaration.parameterTypes]
    rw [if_neg void, types]

open Registry HeaderTypes.Action in
/-- A function pointer resolves the types that its parameters are read with. They are the ones that
are written for the parameters that have a name, and for the others where the last word of the type
could not be one. -/
theorem readField_of_parameters {returns : TypeExpr} {tag name : Identifier} {ps : List Parameter}
    (other : NotVoid ps) {glued : Bool} {s : List Char}
    (spells : Spells glued (returns.lexemes ++ declaratorLexemes tag name (listLexemes ps)) s)
    {tags : Tags} (accepted : tags.accept tag.text) (r : Registry) (struct : String) :
    (readField tags struct (String.ofList s)).Ends r
        (r.declared struct (.pointer returns.name tag.text name.text (ps.map (·.reduced.name)))) r ∧
      ∀ p ∈ ps, p.reduced.name = p.type.name ↔ p.name? = none → p.type.cutName? = none := by
  have read := ofStatement?_of_pointer spells fun listed gap inside blank =>
    parameterTypes_of_spells other inside blank
  have names : (ps.map (·.reduced.name.toList)).map String.ofList = ps.map (·.reduced.name) := by
    rw [List.map_map]
    exact List.map_congr_left fun p _ => String.ofList_toList
  rw [names] at read
  exact ⟨readField_ends_declared read ⟨accepted, returns.name_ne_empty⟩,
    fun p _ => p.reduced_name_eq_iff⟩

def unsignedInt : TypeExpr where
  tokens := [.word "unsigned".toList, .word "int".toList]
  some := List.cons_ne_nil _ _
  words := by decide
  apart := by decide

/-- The same type twice, the second time with a name. -/
def unsignedTwice : List Parameter := [⟨unsignedInt, none⟩, ⟨unsignedInt, some ⟨"size", by decide⟩⟩]

def unsignedTypes : Registry :=
  { entries := [.primitive "unsigned" true, .primitive "unsigned int" true] }

open Registry in
theorem readField_of_parameters_unsignedTwice :
    NotVoid unsignedTwice ∧
      Spells false (unsignedInt.lexemes ++ declaratorLexemes ⟨"C", by decide⟩ ⟨"f", by decide⟩
        (listLexemes unsignedTwice)) "unsigned int (C *f)(unsigned int, unsigned int size)".toList ∧
      Tags.accept none "C" ∧
      (readField none "s_t" "unsigned int (C *f)(unsigned int, unsigned int size)").Ends unsignedTypes
        (.ok (⟨"s_t.f", "f"⟩,
          some (.signature "s_t.f" (some "unsigned int") ["unsigned", "unsigned int"]))) unsignedTypes := by
  have other : NotVoid unsignedTwice := by
    intro p same
    cases same
  have spells : Spells false (unsignedInt.lexemes ++
      declaratorLexemes ⟨"C", by decide⟩ ⟨"f", by decide⟩ (listLexemes unsignedTwice))
      "unsigned int (C *f)(unsigned int, unsigned int size)".toList := by decide +kernel
  have accepted : Tags.accept none "C" := rfl
  have read := (readField_of_parameters other spells accepted unsignedTypes "s_t").1
  have declared : unsignedTypes.declared "s_t" (.pointer unsignedInt.name "C" "f"
      (unsignedTwice.map (·.reduced.name))) = .ok (⟨"s_t.f", "f"⟩,
        some (.signature "s_t.f" (some "unsigned int") ["unsigned", "unsigned int"])) := by
    decide +kernel
  rw [declared, String.ofList_toList] at read
  exact ⟨other, spells, accepted, read⟩

/-- A type of several words is not the same without a name as with one. -/
theorem parameterTypes_unsignedTwice :
    TypeName.canonical "unsigned int" = "unsigned int" ∧ isName "size".toList ∧
      Declaration.parameterTypes "unsigned int".toList = ["unsigned".toList] ∧
      Declaration.parameterTypes "unsigned int size".toList = ["unsigned int".toList] ∧
      Declaration.parameterTypes "unsigned int, unsigned int size".toList =
        ["unsigned".toList, "unsigned int".toList] := by
  decide +kernel

end Parameter

end Written

end HeaderTypes
