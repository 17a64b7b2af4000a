import HeaderTypes.Proofs.Field.Grammar
import HeaderTypes.Proofs.TypeName.Spaced
import HeaderTypes.Proofs.Written.Member

namespace HeaderTypes
open Text HeaderTypes.Action

namespace Text.Respaced
variable {s t : List Char}

theorem startsWith_isBlank (respaced : Respaced s t) :
    startsWith isBlank s = startsWith isBlank t := by
  cases respaced with
  | nil => rfl
  | visible => rfl
  | gap some some' blank blank' _ =>
    rw [startsWith_append some, startsWith_append some', startsWith_of_mem blank some,
      startsWith_of_mem blank' some']

theorem final (respaced : Respaced s t) (final : startsWith isBlank s.reverse = false) :
    startsWith isBlank t.reverse = false :=
  respaced.reverse.startsWith_isBlank.symm.trans final

/-- A text without blanks stands at the head of both texts. -/
theorem exists_append {token : List Char} (dark : ∀ c ∈ token, isBlank c = false)
    (respaced : Respaced (token ++ s) t) : ∃ rest, t = token ++ rest ∧ Respaced s rest := by
  induction token generalizing t with
  | nil => exact ⟨t, rfl, respaced⟩
  | cons c token ih =>
    obtain ⟨first, others⟩ := List.forall_mem_cons.mp dark
    obtain ⟨tail, rfl, later⟩ := respaced.exists_cons first
    obtain ⟨rest, rfl, last⟩ := ih others later
    exact ⟨rest, rfl, last⟩

/-- A visible character stands at the end of both texts. -/
theorem exists_concat {c : Char} (dark : isBlank c = false) (respaced : Respaced (s ++ [c]) t) :
    ∃ before, t = before ++ [c] ∧ Respaced s before := by
  have reversed := respaced.reverse
  rw [List.reverse_append] at reversed
  obtain ⟨rest, same, later⟩ := reversed.exists_cons dark
  refine ⟨rest.reverse, ?_, ?_⟩
  · rw [← List.reverse_reverse t, same, List.reverse_cons]
  · simpa using later.reverse

end Text.Respaced

namespace Declaration
variable {s t : List Char}

/-- Tokens stand at the head of both texts, whatever blanks are before each of them. -/
theorem Begins.respaced {tokens : List (List Char)} {rest : List Char}
    (begins : Begins tokens rest s)
    (dark : ∀ token ∈ tokens, token ≠ [] ∧ ∀ c ∈ token, isBlank c = false)
    (respaced : Respaced s t) :
    ∃ rest', Begins tokens rest' t ∧ Respaced rest rest' := by
  induction begins generalizing t with
  | nil => exact ⟨t, .nil, respaced⟩
  | @cons gap token tokens rest s blank _ ih =>
    obtain ⟨⟨some, visible⟩, others⟩ := List.forall_mem_cons.mp dark
    have begun : startsWith isBlank (token ++ s) = false := by
      obtain ⟨c, tail, rfl⟩ := List.exists_cons_of_ne_nil some
      exact visible c List.mem_cons_self
    have dropped := respaced.dropBlanks
    rw [dropBlanks_append blank, dropBlanks_of_visible begun] at dropped
    obtain ⟨s', split, later⟩ := dropped.exists_append visible
    obtain ⟨rest', begins', last⟩ := ih others later
    have whole : t.takeWhile isBlank ++ dropBlanks t = t := List.takeWhile_append_dropWhile
    rw [← whole, split]
    exact ⟨rest', .cons (fun _ => List.mem_takeWhile_imp) begins', last⟩

theorem pointerTokens_visible {tag name : List Char} (tagged : isName tag) (named : isName name) :
    ∀ token ∈ pointerTokens tag name, token ≠ [] ∧ ∀ c ∈ token, isBlank c = false := by
  have word {w : List Char} (written : isName w) : w ≠ [] ∧ ∀ c ∈ w, isBlank c = false :=
    ⟨ne_nil_of_isName written, fun c member =>
      isBlank_of_isWord (isWord_of_isName written c member)⟩
  have mark {c : Char} (dark : isBlank c = false) : [c] ≠ [] ∧ ∀ d ∈ [c], isBlank d = false :=
    ⟨List.cons_ne_nil _ _, List.forall_mem_singleton.mpr dark⟩
  refine List.forall_mem_cons.mpr ⟨mark rfl, List.forall_mem_cons.mpr ⟨word tagged, ?_⟩⟩
  refine List.forall_mem_cons.mpr ⟨mark rfl, List.forall_mem_cons.mpr ⟨word named, ?_⟩⟩
  exact List.forall_mem_cons.mpr ⟨mark rfl, List.forall_mem_singleton.mpr (mark rfl)⟩

section
variable (final : startsWith isBlank s.reverse = false) (respaced : Respaced s t)
include final respaced

theorem declarator?_respaced {tag name parameters : List Char}
    (read : declarator? s = some (tag, name, parameters)) :
    ∃ parameters', declarator? t = some (tag, name, parameters') ∧
      Respaced parameters parameters' := by
  obtain ⟨tagged, named, begins⟩ := (declarator?_eq_some_iff final).mp read
  obtain ⟨rest, begins', last⟩ := begins.respaced (pointerTokens_visible tagged named) respaced
  obtain ⟨parameters', rfl, inside⟩ := last.exists_concat rfl
  have read' := (declarator?_eq_some_iff (respaced.final final)).mpr ⟨tagged, named, begins'⟩
  exact ⟨parameters', read', inside⟩

theorem declarator?_eq_none_of_respaced (read : declarator? s = none) : declarator? t = none := by
  refine Option.eq_none_iff_forall_ne_some.mpr fun ⟨tag, name, parameters⟩ read' => ?_
  obtain ⟨_, found, _⟩ := declarator?_respaced (respaced.final final) respaced.symm read'
  cases read.symm.trans found

end

theorem declarator?_append_of_blank {a : List Char} (blank : ∀ c ∈ a, isBlank c) (s : List Char) :
    declarator? (a ++ s) = declarator? s := by
  rw [declarator?, after?, dropBlanks_append blank, ← after?, ← declarator?]

/-- Where no declarator begins behind some blanks, none begins within them. -/
theorem splitDeclarator?_append_of_blank {a : List Char} (blank : ∀ c ∈ a, isBlank c)
    (none : declarator? s = Option.none) :
    splitDeclarator? (a ++ s) =
      (splitDeclarator? s).map fun (before, parts) => (a ++ before, parts) := by
  induction a with
  | nil => simp
  | cons c a ih =>
    have here : declarator? (c :: (a ++ s)) = Option.none :=
      (declarator?_append_of_blank blank s).trans none
    rw [List.cons_append, splitDeclarator?, here, ih (List.forall_mem_cons.mp blank).2,
      Option.map_map]
    rfl

/-- A text is split behind the same visible characters, however it is spaced. -/
theorem splitDeclarator?_respaced (respaced : Respaced s t) :
    startsWith isBlank s.reverse = false → ∀ {before tag name parameters : List Char},
      splitDeclarator? s = some (before, tag, name, parameters) →
      ∃ before' parameters', splitDeclarator? t = some (before', tag, name, parameters') ∧
        Respaced before before' ∧ Respaced parameters parameters' := by
  induction respaced with
  | nil => nofun
  | @visible c s t dark later ih =>
    intro final before tag name parameters split
    have whole : Respaced (c :: s) (c :: t) := .visible dark later
    rw [splitDeclarator?] at split
    cases here : declarator? (c :: s) with
    | some parts =>
      rw [here] at split
      cases split
      obtain ⟨parameters', found, inside⟩ := declarator?_respaced final whole here
      exact ⟨[], parameters', splitDeclarator?_of_declarator? found, .nil, inside⟩
    | none =>
      rw [here] at split
      obtain ⟨⟨before, parts⟩, rest, same⟩ := Option.map_eq_some_iff.mp split
      cases same
      have final' := final_of_suffix (List.suffix_cons c s) final
      obtain ⟨before', parameters', split', lead, inside⟩ := ih final' rest
      refine ⟨c :: before', parameters', ?_, .visible dark lead, inside⟩
      rw [splitDeclarator?, declarator?_eq_none_of_respaced final whole here, split']
      rfl
  | @gap a b s t some some' blank blank' later ih =>
    intro final before tag name parameters split
    have final' := final_of_suffix (List.suffix_append a s) final
    cases here : declarator? s with
    | some parts =>
      have read := (declarator?_append_of_blank blank s).trans here
      cases (splitDeclarator?_of_declarator? read).symm.trans split
      obtain ⟨parameters', found, inside⟩ := declarator?_respaced final' later here
      have read' := (declarator?_append_of_blank blank' t).trans found
      exact ⟨[], parameters', splitDeclarator?_of_declarator? read', .nil, inside⟩
    | none =>
      rw [splitDeclarator?_append_of_blank blank here] at split
      obtain ⟨⟨before, parts⟩, rest, same⟩ := Option.map_eq_some_iff.mp split
      cases same
      obtain ⟨before', parameters', split', lead, inside⟩ := ih final' rest
      refine ⟨b ++ before', parameters', ?_, .gap some some' blank blank' lead, inside⟩
      rw [splitDeclarator?_append_of_blank blank'
        (declarator?_eq_none_of_respaced final' later here), split']
      rfl

theorem cutLastName?_respaced (respaced : Respaced s t) : cutLastName? s = cutLastName? t := by
  have dark : ∀ c, isBlank c → TypeName.isPlain c = false := fun c blank => by
    simp [TypeName.isPlain, blank]
  obtain ⟨names, types⟩ := respaced.trim.reverse.takeWhile dark
  have empty : ((trim s).reverse.dropWhile TypeName.isPlain).reverse = [] ↔
      ((trim t).reverse.dropWhile TypeName.isPlain).reverse = [] := by
    rw [List.reverse_eq_nil_iff, List.reverse_eq_nil_iff]
    constructor
    · intro none
      exact (none ▸ types).eq_nil
    · intro none
      exact (none ▸ types.symm).eq_nil
  simp only [cutLastName?, names, ne_eq, empty, TypeName.spelling_of_respaced types.reverse]

theorem parameterType_respaced (respaced : Respaced s t) : parameterType s = parameterType t := by
  rw [parameterType, parameterType, cutLastName?_respaced respaced,
    TypeName.spelling_of_respaced respaced]

/-- The word `void` alone has no blanks that could be written in another way. -/
theorem eq_void_of_respaced {parts parts' : List (List Char)}
    (respaced : List.Forall₂ Respaced parts parts') (alone : parts = [TypeName.void.toList]) :
    parts' = [TypeName.void.toList] := by
  have visible : ∀ c ∈ TypeName.void.toList, isBlank c = false := fun c member =>
    isBlank_of_isWord (isWord_of_isName (by decide) c member)
  subst alone
  obtain ⟨part, others, first, rest, rfl⟩ := List.forall₂_cons_left_iff.mp respaced
  cases rest
  rw [← first.eq_of_visible visible]

theorem parameterTypes_respaced (respaced : Respaced s t) :
    parameterTypes s = parameterTypes t := by
  have parts : List.Forall₂ Respaced (trimmedParts ',' s) (trimmedParts ',' t) :=
    respaced.trimmedParts rfl
  have parts' : List.Forall₂ Respaced (trimmedParts ',' t) (trimmedParts ',' s) :=
    respaced.symm.trimmedParts rfl
  have alone : trimmedParts ',' s = [TypeName.void.toList] ↔
      trimmedParts ',' t = [TypeName.void.toList] :=
    ⟨eq_void_of_respaced parts, eq_void_of_respaced parts'⟩
  have types := Written.map_parameterType parts
    fun _ _ respaced => (parameterType_respaced respaced).symm
  simp only [parameterTypes, alone, types]

/-- Two field statements that are told apart by their blanks alone. -/
structure Restated (statement statement' : String) : Prop where
  trimmed : trim statement.toList = statement.toList
  trimmed' : trim statement'.toList = statement'.toList
  respaced : Respaced statement.toList statement'.toList

theorem Restated.symm {statement statement' : String} (restated : Restated statement statement') :
    Restated statement' statement :=
  ⟨restated.trimmed', restated.trimmed, restated.respaced.symm⟩

theorem ofStatement?_of_splitDeclarator? {statement statement' : String}
    (restated : Restated statement statement')
    {parts : List Char × List Char × List Char × List Char}
    (split : splitDeclarator? statement.toList = some parts) :
    ofStatement? statement' = ofStatement? statement := by
  obtain ⟨before, tag, name, parameters⟩ := parts
  obtain ⟨before', parameters', split', lead, inside⟩ := splitDeclarator?_respaced
    restated.respaced (visible_of_trim restated.trimmed).2 split
  simp only [ofStatement?, split, split', TypeName.spelling_of_respaced lead,
    parameterTypes_respaced inside]

/-- What a statement says does not depend on how it is spaced. -/
theorem Restated.ofStatement? {statement statement' : String}
    (restated : Restated statement statement') :
    Declaration.ofStatement? statement = Declaration.ofStatement? statement' := by
  cases split : splitDeclarator? statement.toList with
  | some parts => exact (ofStatement?_of_splitDeclarator? restated split).symm
  | none =>
    cases split' : splitDeclarator? statement'.toList with
    | some parts => exact ofStatement?_of_splitDeclarator? restated.symm split'
    | none =>
      rw [Declaration.ofStatement?, Declaration.ofStatement?, split, split',
        cutLastName?_respaced restated.respaced]

theorem statements_respaced {body body' : String} (respaced : Respaced body.toList body'.toList) :
    List.Forall₂ Restated (statements body) (statements body') := by
  have dark : isBlank ';' = false := rfl
  have parts := respaced.trimmedParts dark
  refine List.forall₂_map_left_iff.mpr (List.forall₂_map_right_iff.mpr ?_)
  refine List.forall₂_iff_zip.mpr ⟨parts.length_eq, fun {part part'} listed => ?_⟩
  obtain ⟨member, member'⟩ := List.of_mem_zip listed
  refine ⟨?_, ?_, ?_⟩
  · rw [String.toList_ofList, trim_of_mem_trimmedParts member]
  · rw [String.toList_ofList, trim_of_mem_trimmedParts member']
  · rw [String.toList_ofList, String.toList_ofList]
    exact List.forall₂_zip parts listed

end Declaration

/-- A refusal, and one that differs from it at most in how the statement is spaced that is told. -/
inductive Failure.Restated : Failure → Failure → Prop
  | same {cause} : Restated cause cause
  | statement {struct statement statement'} : Respaced statement.toList statement'.toList →
      Restated (.malformedField struct statement) (.malformedField struct statement')

/-- Two results are the same value, or refusals alike but for how a statement is spaced. -/
inductive Agree {α : Type} : Except Failure α → Except Failure α → Prop
  | ok {a} : Agree (.ok a) (.ok a)
  | error {cause cause'} : cause.Restated cause' → Agree (.error cause) (.error cause')

theorem Agree.refl {α : Type} (result : Except Failure α) : Agree result result := by
  cases result with
  | ok a => exact .ok
  | error cause => exact .error .same

namespace Action
variable {σ α β : Type}

/-- Two operations leave a state in the same way, and end with results that agree. -/
def Agrees (action action' : Action σ α) (state : σ) : Prop :=
  ∃ result result' after, action.Ends state result after ∧ action'.Ends state result' after ∧
    Agree result result'

theorem Agrees.refl (action : Action σ α) (state : σ) : action.Agrees action state := by
  obtain ⟨result, after, ends⟩ := Ends.exists action state
  exact ⟨result, result, after, ends, ends, .refl result⟩

theorem Agrees.bind {first first' : Action σ α} {next next' : α → Action σ β} {state : σ}
    (agrees : first.Agrees first' state) (rest : ∀ a after, (next a).Agrees (next' a) after) :
    (first >>= next).Agrees (first' >>= next') state := by
  obtain ⟨_, _, between, ends, ends', agree⟩ := agrees
  cases agree with
  | @ok a =>
    obtain ⟨result, result', after, last, last', agree'⟩ := rest a between
    exact ⟨result, result', after, ends.bind last, ends'.bind last', agree'⟩
  | error same => exact ⟨_, _, between, ends.bind_error, ends'.bind_error, .error same⟩

end Action

namespace Registry
open Declaration
variable {tags : Tags} {struct : String}

theorem readField_agrees {statement statement' : String} (restated : Restated statement statement')
    (r : Registry) :
    (readField tags struct statement).Agrees (readField tags struct statement') r := by
  have malformed : (Failure.malformedField struct statement).Restated
      (.malformedField struct statement') := .statement restated.respaced
  cases read : ofStatement? statement with
  | none =>
    have read' := restated.ofStatement?.symm.trans read
    exact ⟨_, _, r, readField_ends_of_none read, readField_ends_of_none read', .error malformed⟩
  | some d =>
    have read' := restated.ofStatement?.symm.trans read
    by_cases accepted : d.Accepted tags
    · exact ⟨_, _, r, readField_ends_declared read accepted, readField_ends_declared read' accepted,
        .refl _⟩
    · exact ⟨_, _, r, readField_ends_of_not_accepted read accepted,
        readField_ends_of_not_accepted read' accepted, .error malformed⟩

theorem readEach_agrees {statements statements' : List String}
    (restated : List.Forall₂ Restated statements statements') (r : Registry) :
    (readEach tags struct statements).Agrees (readEach tags struct statements') r := by
  induction restated generalizing r with
  | nil => exact .refl _ r
  | cons first _ ih =>
    exact (readField_agrees first r).bind fun part after =>
      (ih after).bind fun parts after => .refl _ after

/-- Blanks make no difference to how a struct body is read. -/
theorem addFields_respaced (tags : Tags) (struct : String) {body body' : String}
    (respaced : Respaced body.toList body'.toList) (r : Registry) :
    (addFields tags struct body).Agrees (addFields tags struct body') r :=
  (readEach_agrees (statements_respaced respaced) r).bind fun _ after => .refl _ after

theorem addFields_respaced_lines :
    Respaced "int a; int (A *f)(void);".toList "int\ta;\n  int\n(A *f)(void);".toList ∧
      (addFields none "s_t" "int a; int (A *f)(void);").Agrees
        (addFields none "s_t" "int\ta;\n  int\n(A *f)(void);")
        { entries := [.primitive "int" true] } := by
  have gap (word : List Char) (c d : Char) (blanks : List Char) (blank : [c].all isBlank)
      (blank' : (d :: blanks).all isBlank) {s t : List Char} (later : Respaced s t) :
      Respaced (word ++ ([c] ++ s)) (word ++ (d :: blanks ++ t)) :=
    (Respaced.refl word).append (.gap (List.cons_ne_nil _ _) (List.cons_ne_nil _ _)
      (List.all_eq_true.mp blank) (List.all_eq_true.mp blank') later)
  have second := gap "int".toList ' ' '\n' [] rfl rfl (Respaced.refl "(A *f)(void);".toList)
  have first := gap "a;".toList ' ' '\n' [' ', ' '] rfl rfl second
  have respaced : Respaced "int a; int (A *f)(void);".toList
      "int\ta;\n  int\n(A *f)(void);".toList := gap "int".toList ' ' '\t' [] rfl rfl first
  exact ⟨respaced, addFields_respaced none "s_t" respaced _⟩

end Registry

end HeaderTypes
