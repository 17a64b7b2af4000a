import HeaderTypes.Field.Declaration
import HeaderTypes.Proofs.Text.Parts

namespace HeaderTypes
open Text

namespace Declaration

/-- A text begins with tokens, with any blanks before each of them, and a rest follows. -/
inductive Begins : (tokens : List (List Char)) → (rest s : List Char) → Prop
  | nil {rest} : Begins [] rest rest
  | cons {gap token tokens rest s} : (∀ c ∈ gap, isBlank c) → Begins tokens rest s →
      Begins (token :: tokens) rest (gap ++ (token ++ s))

namespace Begins

theorem cons_iff {token : List Char} {tokens : List (List Char)} {rest s : List Char} :
    Begins (token :: tokens) rest s ↔ ∃ gap t, s = gap ++ (token ++ t) ∧ (∀ c ∈ gap, isBlank c) ∧
      Begins tokens rest t := by
  constructor
  · intro begins
    cases begins with
    | cons blank later => exact ⟨_, _, rfl, blank, later⟩
  · rintro ⟨gap, t, rfl, blank, later⟩
    exact .cons blank later

theorem nil_iff {rest s : List Char} : Begins [] rest s ↔ s = rest := by
  constructor
  · intro begins
    cases begins
    rfl
  · rintro rfl
    exact .nil

/-- Blanks before the first token make no difference. -/
theorem append_blank {gap token : List Char} {tokens : List (List Char)} {rest s : List Char}
    (blank : ∀ c ∈ gap, isBlank c) (begins : Begins (token :: tokens) rest s) :
    Begins (token :: tokens) rest (gap ++ s) := by
  obtain ⟨inner, t, rfl, blank', later⟩ := cons_iff.mp begins
  rw [← List.append_assoc]
  exact .cons (List.forall_mem_append.mpr ⟨blank, blank'⟩) later

theorem rest_suffix {tokens : List (List Char)} {rest s : List Char}
    (begins : Begins tokens rest s) : rest <:+ s := by
  induction begins with
  | nil => exact List.suffix_rfl
  | cons _ _ ih => exact ih.trans ((List.suffix_append _ _).trans (List.suffix_append _ _))

/-- A mark as the next token does not go on with a word. -/
theorem startsWith_isWord {c : Char} (other : isWord c = false) {tokens : List (List Char)}
    {rest s : List Char} (begins : Begins ([c] :: tokens) rest s) : startsWith isWord s = false := by
  obtain ⟨gap, t, rfl, blank, _⟩ := cons_iff.mp begins
  cases gap with
  | nil => exact other
  | cons d gap => exact isWord_of_isBlank (blank d List.mem_cons_self)

end Begins

theorem after?_eq_some_iff {wanted : Char} (visible : isBlank wanted = false) {s rest : List Char} :
    after? wanted s = some rest ↔ ∃ gap, s = gap ++ ([wanted] ++ rest) ∧ ∀ c ∈ gap, isBlank c := by
  unfold after?
  constructor
  · intro read
    refine ⟨s.takeWhile isBlank, ?_, fun _ => List.mem_takeWhile_imp⟩
    have whole : s.takeWhile isBlank ++ dropBlanks s = s := List.takeWhile_append_dropWhile
    cases dropped : dropBlanks s with
    | nil =>
      rw [dropped] at read
      cases read
    | cons c t =>
      rw [dropped] at read whole
      dsimp only at read
      by_cases same : c = wanted
      · rw [if_pos same] at read
        rw [← Option.some.inj read, ← same]
        exact whole.symm
      · rw [if_neg same] at read
        cases read
  · rintro ⟨gap, rfl, blank⟩
    have dropped : dropBlanks (gap ++ ([wanted] ++ rest)) = wanted :: rest := by
      rw [dropBlanks_append blank]
      exact dropBlanks_of_visible visible
    rw [dropped]
    exact if_pos rfl

/-- A mark at the head of a text is read. -/
theorem Begins.after? {c : Char} (visible : isBlank c = false) {tokens : List (List Char)}
    {rest s : List Char} (begins : Begins ([c] :: tokens) rest s) :
    ∃ t, Declaration.after? c s = some t ∧ Begins tokens rest t := by
  obtain ⟨gap, t, same, blank, later⟩ := cons_iff.mp begins
  exact ⟨t, (after?_eq_some_iff visible).mpr ⟨gap, same, blank⟩, later⟩

/-- A name at the head of a text is read, where a mark comes next. -/
theorem Begins.readName? {name : List Char} {c : Char} (named : isName name)
    (other : isWord c = false) {tokens : List (List Char)} {rest s : List Char}
    (begins : Begins (name :: [c] :: tokens) rest s) :
    ∃ t, Text.readName? (dropBlanks s) = some (name, t) ∧ Begins ([c] :: tokens) rest t := by
  obtain ⟨gap, t, same, blank, later⟩ := cons_iff.mp begins
  have stop := later.startsWith_isWord other
  exact ⟨t, readName?_dropBlanks_iff.mpr ⟨gap, same, blank, named, stop⟩, later⟩

theorem beforeLastParen?_eq_some_iff {s : List Char} (final : startsWith isBlank s.reverse = false)
    {inside : List Char} : beforeLastParen? s = some inside ↔ s = inside ++ [')'] := by
  unfold beforeLastParen?
  constructor
  · intro read
    split at read
    · rename_i before reversed
      have same := congrArg List.reverse reversed
      rw [List.reverse_reverse, List.reverse_cons, Option.some.inj read] at same
      exact same
    · rename_i before reversed
      rw [reversed] at final
      cases final
    · cases read
  · rintro rfl
    simp

/-- What stands between the return type of a function pointer and its parameters. -/
def pointerTokens (tag name : List Char) : List (List Char) :=
  [['('], tag, ['*'], name, [')'], ['(']]

/-- A declarator is a calling convention, a star and a name in parentheses, and parameters in
parentheses. -/
theorem declarator?_eq_some_iff {s tag name parameters : List Char}
    (final : startsWith isBlank s.reverse = false) :
    declarator? s = some (tag, name, parameters) ↔
      isName tag ∧ isName name ∧ Begins (pointerTokens tag name) (parameters ++ [')']) s := by
  unfold declarator? pointerTokens
  constructor
  · intro read
    obtain ⟨s₁, opened, read⟩ := Option.bind_eq_some_iff.mp read
    obtain ⟨⟨tag', s₂⟩, tagged, read⟩ := Option.bind_eq_some_iff.mp read
    obtain ⟨s₃, starred, read⟩ := Option.bind_eq_some_iff.mp read
    obtain ⟨⟨name', s₄⟩, named, read⟩ := Option.bind_eq_some_iff.mp read
    obtain ⟨s₅, closed, read⟩ := Option.bind_eq_some_iff.mp read
    obtain ⟨s₆, opened', read⟩ := Option.bind_eq_some_iff.mp read
    obtain ⟨parameters', last, read⟩ := Option.bind_eq_some_iff.mp read
    cases read
    obtain ⟨gap₁, rfl, blank₁⟩ := (after?_eq_some_iff rfl).mp opened
    obtain ⟨gap₂, rfl, blank₂, isTag, -⟩ := readName?_dropBlanks_iff.mp tagged
    obtain ⟨gap₃, rfl, blank₃⟩ := (after?_eq_some_iff rfl).mp starred
    obtain ⟨gap₄, rfl, blank₄, isNamed, -⟩ := readName?_dropBlanks_iff.mp named
    obtain ⟨gap₅, rfl, blank₅⟩ := (after?_eq_some_iff rfl).mp closed
    obtain ⟨gap₆, rfl, blank₆⟩ := (after?_eq_some_iff rfl).mp opened'
    have begins : Begins (pointerTokens tag name) s₆ _ :=
      .cons blank₁ (.cons blank₂ (.cons blank₃ (.cons blank₄ (.cons blank₅ (.cons blank₆ .nil)))))
    have inner := final_of_suffix begins.rest_suffix final
    rw [(beforeLastParen?_eq_some_iff inner).mp last] at begins ⊢
    exact ⟨isTag, isNamed, begins⟩
  · rintro ⟨isTag, isNamed, begins⟩
    have last := (beforeLastParen?_eq_some_iff (final_of_suffix begins.rest_suffix final)).mpr rfl
    obtain ⟨s₁, opened, begins⟩ := begins.after? rfl
    obtain ⟨s₂, tagged, begins⟩ := begins.readName? isTag rfl
    obtain ⟨s₃, starred, begins⟩ := begins.after? rfl
    obtain ⟨s₄, named, begins⟩ := begins.readName? isNamed rfl
    obtain ⟨s₅, closed, begins⟩ := begins.after? rfl
    obtain ⟨s₆, opened', begins⟩ := begins.after? rfl
    cases Begins.nil_iff.mp begins
    simp only [opened, tagged, starred, named, closed, opened', last, Option.bind_eq_bind,
      Option.bind_some]
    rfl

/-- The text before a declarator is the shortest behind which there is one. -/
theorem splitDeclarator?_eq_some_iff {s before : List Char}
    {parts : List Char × List Char × List Char} :
    splitDeclarator? s = some (before, parts) ↔
      ∃ d, s = before ++ d ∧ declarator? d = some parts ∧
        ∀ a b, s = a ++ b → (declarator? b).isSome → before.length ≤ a.length := by
  induction s generalizing before with
  | nil =>
    constructor
    · intro split
      cases split
    · rintro ⟨d, same, read, -⟩
      obtain ⟨-, rfl⟩ := List.append_eq_nil_iff.mp same.symm
      cases read
  | cons c s ih =>
    rw [splitDeclarator?]
    cases here : declarator? (c :: s) with
    | some found =>
      constructor
      · intro split
        cases split
        exact ⟨c :: s, rfl, here, fun a b _ _ => Nat.zero_le _⟩
      · rintro ⟨d, same, read, least⟩
        have none : before.length ≤ 0 := least [] (c :: s) rfl (by rw [here]; rfl)
        cases List.eq_nil_of_length_eq_zero (Nat.le_zero.mp none)
        cases same
        cases here.symm.trans read
        rfl
    | none =>
      constructor
      · intro split
        obtain ⟨⟨inner, parts'⟩, split', same⟩ := Option.map_eq_some_iff.mp split
        cases same
        obtain ⟨d, rfl, read, least⟩ := ih.mp split'
        refine ⟨d, rfl, read, fun a b same found => ?_⟩
        cases a with
        | nil =>
          cases same
          rw [here] at found
          cases found
        | cons e a =>
          have shorter := least a b (List.cons.inj same).2 found
          exact Nat.succ_le_succ shorter
      · rintro ⟨d, same, read, least⟩
        cases before with
        | nil =>
          cases same
          rw [here] at read
          cases read
        | cons e before =>
          obtain ⟨rfl, tail⟩ := List.cons.inj same
          have shorter : ∀ a b, s = a ++ b → (declarator? b).isSome → before.length ≤ a.length := by
            intro a b same' found
            have longer := least (c :: a) b (by rw [same', List.cons_append]) found
            exact Nat.le_of_succ_le_succ longer
          have split := ih.mpr ⟨d, tail, read, shorter⟩
          rw [split]
          rfl

theorem splitDeclarator?_eq_none_iff {s : List Char} :
    splitDeclarator? s = none ↔ ∀ a b, s = a ++ b → declarator? b = none := by
  induction s with
  | nil =>
    refine ⟨fun _ a b same => ?_, fun _ => rfl⟩
    obtain ⟨-, rfl⟩ := List.append_eq_nil_iff.mp same.symm
    rfl
  | cons c s ih =>
    rw [splitDeclarator?]
    constructor
    · intro split a b same
      cases here : declarator? (c :: s) with
      | some found =>
        rw [here] at split
        cases split
      | none =>
        rw [here] at split
        cases a with
        | nil =>
          cases same
          exact here
        | cons d a => exact ih.mp (Option.map_eq_none_iff.mp split) a b (List.cons.inj same).2
    · intro none
      rw [none [] (c :: s) rfl]
      exact Option.map_eq_none_iff.mpr (ih.mpr fun a b same => none (c :: a) b (by rw [same]; rfl))

/-- The parts of a function pointer as they are written. -/
@[ext]
structure PointerParts where
  returns : List Char
  tag : List Char
  name : List Char
  parameters : List Char
  deriving DecidableEq

/-- A text is a function pointer: a return type, then in parentheses a calling convention, a star
and a name, then parameters in parentheses. The return type and the parameters may be anything. -/
structure Pointer (s : List Char) (p : PointerParts) : Prop where
  tagged : isName p.tag
  named : isName p.name
  written : ∃ declarator, s = p.returns ++ declarator ∧
    Begins (pointerTokens p.tag p.name) (p.parameters ++ [')']) declarator

/-- A function pointer whose return type is the shortest of all that the text may be split behind. -/
structure ShortestPointer (s : List Char) (p : PointerParts) : Prop extends Pointer s p where
  least : ∀ {q}, Pointer s q → p.returns.length ≤ q.returns.length

/-- A text is a type and a name behind a blank or a star. -/
structure Direct (s type name : List Char) : Prop where
  written : s = type ++ name
  named : isName name
  parted : ∃ c ∈ type.getLast?, isBlank c ∨ c = '*'

section
variable {s : List Char} {p q : PointerParts} (final : startsWith isBlank s.reverse = false)
include final

theorem pointer_iff : Pointer s p ↔
    ∃ d, s = p.returns ++ d ∧ declarator? d = some (p.tag, p.name, p.parameters) := by
  have read {d : List Char} (same : s = p.returns ++ d) :
      declarator? d = some (p.tag, p.name, p.parameters) ↔
        isName p.tag ∧ isName p.name ∧ Begins (pointerTokens p.tag p.name) (p.parameters ++ [')']) d :=
    declarator?_eq_some_iff (final_of_suffix ⟨p.returns, same.symm⟩ final)
  constructor
  · rintro ⟨tagged, named, d, same, begins⟩
    exact ⟨d, same, (read same).mpr ⟨tagged, named, begins⟩⟩
  · rintro ⟨d, same, found⟩
    obtain ⟨tagged, named, begins⟩ := (read same).mp found
    exact ⟨tagged, named, d, same, begins⟩

/-- The search from the left finds the shortest return type. -/
theorem splitDeclarator?_eq_some_iff_shortest :
    splitDeclarator? s = some (p.returns, p.tag, p.name, p.parameters) ↔ ShortestPointer s p := by
  rw [splitDeclarator?_eq_some_iff]
  constructor
  · rintro ⟨d, same, read, least⟩
    refine ⟨(pointer_iff final).mpr ⟨d, same, read⟩, fun other => ?_⟩
    obtain ⟨d', same', read'⟩ := (pointer_iff final).mp other
    exact least _ d' same' (by rw [read']; rfl)
  · intro shortest
    obtain ⟨d, same, read⟩ := (pointer_iff final).mp shortest.toPointer
    refine ⟨d, same, read, fun a b same' found => ?_⟩
    obtain ⟨⟨tag, name, parameters⟩, read'⟩ := Option.isSome_iff_exists.mp found
    have other : Pointer s ⟨a, tag, name, parameters⟩ := (pointer_iff final).mpr ⟨b, same', read'⟩
    exact shortest.least other

theorem Pointer.exists_shortest (pointer : Pointer s p) : ∃ q, ShortestPointer s q := by
  obtain ⟨d, same, read⟩ := (pointer_iff final).mp pointer
  cases split : splitDeclarator? s with
  | none =>
    have none := splitDeclarator?_eq_none_iff.mp split p.returns d same
    rw [none] at read
    cases read
  | some found =>
    obtain ⟨returns, tag, name, parameters⟩ := found
    exact ⟨⟨returns, tag, name, parameters⟩, (splitDeclarator?_eq_some_iff_shortest final).mp split⟩

theorem splitDeclarator?_eq_none_of_no_pointer (none : ∀ p, ¬ Pointer s p) :
    splitDeclarator? s = Option.none := by
  refine splitDeclarator?_eq_none_iff.mpr fun a b same => ?_
  refine Option.eq_none_iff_forall_ne_some.mpr fun ⟨tag, name, parameters⟩ read => ?_
  exact none ⟨a, tag, name, parameters⟩ ((pointer_iff final).mpr ⟨b, same, read⟩)

theorem ShortestPointer.unique (shortest : ShortestPointer s p) (shortest' : ShortestPointer s q) :
    p = q := by
  have split := (splitDeclarator?_eq_some_iff_shortest final).mpr shortest
  have split' := (splitDeclarator?_eq_some_iff_shortest final).mpr shortest'
  obtain ⟨returns, rest⟩ := Prod.mk.inj (Option.some.inj (split.symm.trans split'))
  obtain ⟨tag, rest⟩ := Prod.mk.inj rest
  obtain ⟨name, parameters⟩ := Prod.mk.inj rest
  exact PointerParts.ext returns tag name parameters

omit final in
/-- A return type without parentheses is the shortest one, but for the blanks at its end. -/
theorem Pointer.shortest_of_bare (pointer : Pointer s p) (bare : '(' ∉ p.returns) :
    ShortestPointer s { p with returns := dropFinalBlanks p.returns } := by
  obtain ⟨tagged, named, d, same, begins⟩ := pointer
  obtain ⟨gap, whole, blank, visible⟩ := dropFinalBlanks_append p.returns
  have split : s = dropFinalBlanks p.returns ++ (gap ++ d) := by
    rw [← List.append_assoc, ← whole]
    exact same
  refine ⟨⟨tagged, named, gap ++ d, split, begins.append_blank blank⟩, fun {q} other => ?_⟩
  obtain ⟨-, -, d', same', begins'⟩ := other
  refine Nat.le_of_not_lt fun shorter => ?_
  change q.returns.length < (dropFinalBlanks p.returns).length at shorter
  -- a shorter one would leave nothing but blanks before the first parenthesis
  have both : q.returns ++ d' = dropFinalBlanks p.returns ++ (gap ++ d) := same'.symm.trans split
  obtain ⟨extra, longer, tail⟩ : ∃ extra, dropFinalBlanks p.returns = q.returns ++ extra ∧
      d' = extra ++ (gap ++ d) := by
    rcases List.append_eq_append_iff.mp both with ⟨extra, longer, tail⟩ | ⟨extra, longer, -⟩
    · exact ⟨extra, longer, tail⟩
    · have bound := congrArg List.length longer
      rw [List.length_append] at bound
      omega
  have filled : extra ≠ [] := by
    rintro rfl
    rw [longer, List.append_nil] at shorter
    exact Nat.lt_irrefl _ shorter
  have absent : '(' ∉ extra := by
    intro member
    rw [whole, longer] at bare
    exact bare (List.mem_append_left _ (List.mem_append_right _ member))
  obtain ⟨gap', t, same'', blank', -⟩ := Begins.cons_iff.mp begins'
  obtain ⟨inside, head, -⟩ := exists_append_of_append (same''.symm.trans tail) absent
  have visible' : startsWith isBlank extra.reverse = false := by
    rw [longer] at visible
    exact final_of_suffix (List.suffix_append _ _) visible
  have dark : startsWith isBlank extra.reverse := by
    refine startsWith_of_mem (fun c member => blank' c ?_) (by simpa using filled)
    rw [head]
    exact List.mem_append_left _ (List.mem_reverse.mp member)
  rw [visible'] at dark
  cases dark

end

/-- The name that a text may be cut before is all that stands behind its last blank or star. -/
theorem Direct.eq_last {s type name : List Char} (direct : Direct s type name) :
    s.reverse.takeWhile TypeName.isPlain = name.reverse ∧
      s.reverse.dropWhile TypeName.isPlain = type.reverse := by
  obtain ⟨c, last, apart⟩ := direct.parted
  obtain ⟨before, rfl⟩ := List.getLast?_eq_some_iff.mp last
  have words : ∀ c ∈ name.reverse, TypeName.isPlain c := fun c member =>
    isPlain_of_isWord (isWord_of_isName direct.named c (List.mem_reverse.mp member))
  have stop : startsWith TypeName.isPlain (before ++ [c]).reverse = false := by
    rw [List.reverse_append]
    refine Bool.eq_false_iff.mpr fun begun => ?_
    obtain ⟨visible, other⟩ := isPlain_iff.mp begun
    rcases apart with blank | star
    · exact Bool.false_ne_true (visible.symm.trans blank)
    · exact other star
  rw [direct.written, List.reverse_append]
  exact ⟨takeWhile_append_stop words stop, dropWhile_append_stop words stop⟩

theorem Direct.unique {s type name type' name' : List Char} (direct : Direct s type name)
    (direct' : Direct s type' name') : type = type' ∧ name = name' := by
  have names := direct.eq_last.1.symm.trans direct'.eq_last.1
  have types := direct.eq_last.2.symm.trans direct'.eq_last.2
  exact ⟨List.reverse_inj.mp types, List.reverse_inj.mp names⟩

/-- A text without blanks at its ends is cut before its last name, where that stands behind a
blank or a star. -/
theorem cutLastName?_eq_some_iff {s type name : List Char} (trimmed : trim s = s) :
    cutLastName? s = some (type, name) ↔ ∃ t, type = TypeName.spelling t ∧ Direct s t name := by
  have whole : (s.reverse.dropWhile TypeName.isPlain).reverse ++
      (s.reverse.takeWhile TypeName.isPlain).reverse = s := by
    rw [← List.reverse_append, List.takeWhile_append_dropWhile, List.reverse_reverse]
  simp only [cutLastName?, trimmed]
  constructor
  · intro cut
    split at cut
    · rename_i accepted
      cases cut
      obtain ⟨named, filled⟩ := Bool.and_eq_true_iff.mp accepted
      refine ⟨_, rfl, whole.symm, named, ?_⟩
      have stop := startsWith_dropWhile TypeName.isPlain s.reverse
      cases rest : s.reverse.dropWhile TypeName.isPlain with
      | nil => simp [rest] at filled
      | cons c before =>
        rw [rest] at stop
        refine ⟨c, by simp, ?_⟩
        by_cases star : c = '*'
        · exact Or.inr star
        · refine Or.inl (Bool.not_eq_false _ ▸ fun visible => ?_)
          exact Bool.false_ne_true (stop.symm.trans (isPlain_iff.mpr ⟨visible, star⟩))
    · cases cut
  · rintro ⟨t, rfl, direct⟩
    have filled : t ≠ [] := by
      obtain ⟨c, last, -⟩ := direct.parted
      rintro rfl
      cases last
    obtain ⟨names, types⟩ := direct.eq_last
    rw [names, types, List.reverse_reverse, List.reverse_reverse]
    simp [direct.named, filled]

end Declaration

end HeaderTypes
