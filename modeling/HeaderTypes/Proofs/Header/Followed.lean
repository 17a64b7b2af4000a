import HeaderTypes.Proofs.Header.Search
import Mathlib.Data.List.TakeWhile

namespace HeaderTypes.Header
open Text

/-- A text of whole lines in which no comment begins that could go on behind it. -/
structure Lines (s : List Char) : Prop where
  ended : s.getLast? = some '\n'
  plain : ¬ "/*".toList <:+: s

namespace Lines
variable {s : List Char} (lines : Lines s)
include lines

theorem of_suffix {t : List Char} (tail : t <:+ s) (some : t ≠ []) : Lines t where
  ended := by
    obtain ⟨before, rfl⟩ := tail
    rw [← lines.ended, List.getLast?_append, Option.or_of_isSome (List.getLast?_isSome.mpr some)]
  plain inside := lines.plain (inside.trans tail.isInfix)

theorem newline_mem : '\n' ∈ s := List.mem_of_getLast? lines.ended

/-- What follows a mark in whole lines are whole lines. -/
theorem of_mark {d : Char} {t : List Char} (other : d ≠ '\n') (tail : d :: t <:+ s) : Lines t := by
  have marked := lines.of_suffix tail (List.cons_ne_nil d t)
  refine marked.of_suffix (List.suffix_cons d t) ?_
  rintro rfl
  exact other (Option.some.inj marked.ended)

/-- A comment begins in whole lines whatever follows them, or none begins there. -/
theorem begins_append {c : Char} {t : List Char} (tail : c :: t <:+ s) (more : List Char) :
    Comment.begins c (t ++ more) = Comment.begins c t := by
  cases t with
  | nil =>
    have last := (lines.of_suffix tail (List.cons_ne_nil c [])).ended
    cases Option.some.inj last
    rfl
  | cons d t => rfl

theorem not_block {t : List Char} : ¬ '/' :: '*' :: t <:+ s := fun tail =>
  lines.plain (List.IsInfix.trans ⟨[], t, rfl⟩ tail.isInfix)

end Lines

/-! What is read in a text is read in the same way when more follows it. -/

theorem afterLine_followed {s : List Char} (some : Comment.afterLine s ≠ []) (more : List Char) :
    Comment.afterLine (s ++ more) = Comment.afterLine s ++ more := by
  rw [Comment.afterLine, List.dropWhile_append, if_neg (by simpa [Comment.afterLine] using some),
    Comment.afterLine]

theorem afterClose?_suffix {s rest : List Char} (closed : Comment.afterClose? s = some rest) :
    rest <:+ s := by
  fun_induction Comment.afterClose? s with
  | case1 => cases closed
  | case2 s =>
    cases Option.some.inj closed
    exact ⟨['*', '/'], rfl⟩
  | case3 c s _ ih => exact (ih closed).trans (List.suffix_cons c s)

theorem skipGap_suffix (s : List Char) : skipGap s <:+ s := by
  fun_induction skipGap s with
  | case1 => exact List.suffix_rfl
  | case2 s _ =>
    cases last : s.getLast? with
    | none => exact List.nil_suffix
    | some c =>
      obtain ⟨before, rfl⟩ := List.getLast?_eq_some_iff.mp last
      exact ⟨'/' :: '/' :: before, rfl⟩
  | case3 s c rest after shorter ih =>
    have tail : c :: rest <:+ s := after ▸ List.dropWhile_suffix _
    exact ih.trans (tail.trans ⟨['/', '/'], rfl⟩)
  | case4 s rest closed shorter ih => exact ih.trans ((afterClose?_suffix closed).trans ⟨['/', '*'], rfl⟩)
  | case5 s _ => exact List.suffix_rfl
  | case6 c s _ _ _ ih => exact ih.trans (List.suffix_cons c s)
  | case7 c s _ _ _ => exact List.suffix_rfl

theorem skipGap_followed {s : List Char} (lines : Lines s) (some : skipGap s ≠ []) (more : List Char) :
    skipGap (s ++ more) = skipGap s ++ more := by
  fun_induction skipGap s with
  | case1 => exact absurd rfl some
  | case2 s none =>
    have inner : Lines s := (lines.of_mark (by decide) List.suffix_rfl).of_mark (by decide) List.suffix_rfl
    exact absurd (List.dropWhile_eq_nil_iff.mp none _ inner.newline_mem) (by decide)
  | case3 s c rest after shorter ih =>
    have tail : c :: rest <:+ s := after ▸ List.dropWhile_suffix _
    have filled : Comment.afterLine s ≠ [] := after ▸ List.cons_ne_nil c rest
    have reached := afterLine_followed filled more
    have inner := lines.of_suffix (tail.trans ⟨['/', '/'], rfl⟩) (List.cons_ne_nil c rest)
    rw [List.cons_append, List.cons_append, skipGap_of_line (by simp [reached, filled]), reached, after,
      ih inner some]
  | case4 s rest closed shorter ih => exact absurd List.suffix_rfl lines.not_block
  | case5 s _ => exact absurd List.suffix_rfl lines.not_block
  | case6 c s line block blank ih =>
    have none : Comment.begins c s = false := Comment.begins_eq_false_iff.mpr ⟨line, block⟩
    have inner := lines.of_suffix (List.suffix_cons c s) (by rintro rfl; exact some (by rw [skipGap]))
    rw [List.cons_append, skipGap_cons (lines.begins_append List.suffix_rfl more ▸ none), if_pos blank,
      ih inner some]
  | case7 c s line block visible =>
    have none : Comment.begins c s = false := Comment.begins_eq_false_iff.mpr ⟨line, block⟩
    rw [List.cons_append, skipGap_cons (lines.begins_append List.suffix_rfl more ▸ none),
      if_neg visible]

theorem readName?_followed {s name rest : List Char} (read : readName? s = some (name, rest))
    (filled : rest ≠ []) (more : List Char) :
    readName? (s ++ more) = some (name, rest ++ more) := by
  obtain ⟨rfl, named, stop⟩ := readName?_eq_some_iff.mp read
  rw [← startsWith_append filled more] at stop
  exact readName?_eq_some_iff.mpr ⟨List.append_assoc _ _ _, named, stop⟩

theorem readName?_followed_of_none {s : List Char} (none : readName? s = none) (filled : s ≠ [])
    (more : List Char) : readName? (s ++ more) = Option.none := by
  have absent : (readName? (s ++ more)).isSome = false := by
    rw [readName?_isSome, startsWith_append filled, ← readName?_isSome, none, Option.isSome_none]
  exact Option.isNone_iff_eq_none.mp (Option.isSome_eq_false_iff.mp absent)

theorem readHead_suffix {s rest : List Char} {tag : Option (List Char)}
    (head : readHead s = (tag, rest)) : rest <:+ s := by
  unfold readHead at head
  split at head
  · rename_i name after read
    cases head
    have tail : after <:+ skipGap s := ⟨name, (readName?_append read).symm⟩
    exact (skipGap_suffix after).trans (tail.trans (skipGap_suffix s))
  · cases head
    exact skipGap_suffix s

theorem readHead_followed {s rest : List Char} {tag : Option (List Char)} (lines : Lines s)
    (head : readHead s = (tag, rest)) (filled : rest ≠ []) (more : List Char) :
    readHead (s ++ more) = (tag, rest ++ more) := by
  have gap : skipGap s ≠ [] := fun empty => by
    rw [readHead, empty] at head
    exact filled (Prod.mk.inj head).2.symm
  have passed := skipGap_followed lines gap more
  unfold readHead at head ⊢
  cases read : readName? (skipGap s) with
  | none =>
    rw [read] at head
    cases head
    simp only [passed, readName?_followed_of_none read gap]
  | some named =>
    obtain ⟨name, after⟩ := named
    rw [read] at head
    cases head
    have tail : after <:+ s := .trans ⟨name, (readName?_append read).symm⟩ (skipGap_suffix s)
    have some : after ≠ [] := by
      rintro rfl
      exact filled (by rw [skipGap])
    simp only [passed, readName?_followed read some,
      skipGap_followed (lines.of_suffix tail some) filled]

theorem declarationEnd?_suffix {s rest : List Char} {c : Char}
    (ends : declarationEnd? s = some (c, rest)) : c :: rest <:+ s := by
  fun_induction declarationEnd? s with
  | case1 => cases ends
  | case2 s shorter ih => exact (ih ends).trans ((List.dropWhile_suffix _).trans ⟨['/', '/'], rfl⟩)
  | case3 s after closed shorter ih =>
    exact (ih ends).trans ((afterClose?_suffix closed).trans ⟨['/', '*'], rfl⟩)
  | case4 s _ ih => exact (ih ends).trans ⟨['/'], rfl⟩
  | case5 d s _ _ _ =>
    cases Option.some.inj ends
    exact List.suffix_rfl
  | case6 d s _ _ _ ih => exact (ih ends).trans (List.suffix_cons d s)

theorem declarationEnd?_followed {s rest : List Char} {c : Char} (lines : Lines s)
    (ends : declarationEnd? s = some (c, rest)) (more : List Char) :
    declarationEnd? (s ++ more) = some (c, rest ++ more) := by
  fun_induction declarationEnd? s with
  | case1 => cases ends
  | case2 s shorter ih =>
    have filled : Comment.afterLine s ≠ [] := fun empty => by
      rw [empty, declarationEnd?] at ends
      cases ends
    have tail : Comment.afterLine s <:+ '/' :: '/' :: s :=
      (List.dropWhile_suffix _).trans ⟨['/', '/'], rfl⟩
    rw [List.cons_append, List.cons_append, declarationEnd?, afterLine_followed filled]
    exact ih (lines.of_suffix tail filled) ends
  | case3 s after closed shorter ih => exact absurd List.suffix_rfl lines.not_block
  | case4 s _ ih => exact absurd List.suffix_rfl lines.not_block
  | case5 d s line block mark =>
    have none : Comment.begins d s = false := Comment.begins_eq_false_iff.mpr ⟨line, block⟩
    rw [List.cons_append, declarationEnd?_cons (lines.begins_append List.suffix_rfl more ▸ none),
      if_pos mark]
    cases Option.some.inj ends
    rfl
  | case6 d s line block other ih =>
    have none : Comment.begins d s = false := Comment.begins_eq_false_iff.mpr ⟨line, block⟩
    have filled : s ≠ [] := by
      rintro rfl
      rw [declarationEnd?] at ends
      cases ends
    rw [List.cons_append, declarationEnd?_cons (lines.begins_append List.suffix_rfl more ▸ none),
      if_neg other]
    exact ih (lines.of_suffix (List.suffix_cons d s) filled) ends

section Markers
variable {name : Option (List Char)} (named : ∀ n ∈ name, isName n)
include named

theorem marker?_suffix {s found rest : List Char} (marks : marker? name s = some (found, rest)) :
    ';' :: rest <:+ s := by
  obtain ⟨gap, gap', rfl, -⟩ := (marker?_eq_some_iff named).mp marks
  exact ⟨'}' :: (gap ++ (found ++ gap')), by simp⟩

theorem marker?_followed {s found rest : List Char} (marks : marker? name s = some (found, rest))
    (more : List Char) : marker? name (s ++ more) = some (found, rest ++ more) := by
  obtain ⟨gap, gap', rfl, parts⟩ := (marker?_eq_some_iff named).mp marks
  exact (marker?_eq_some_iff named).mpr ⟨gap, gap', by simp, parts⟩

/-- A marker that more text makes has its semicolon there. -/
theorem marker?_followed_of_none {s : List Char} (none : marker? name s = none) (closed : ';' ∈ s)
    (more : List Char) : marker? name (s ++ more) = Option.none := by
  refine Option.eq_none_iff_forall_ne_some.mpr fun ⟨found, rest⟩ marks => ?_
  obtain ⟨gap, gap', same, blank, blank', isNamed, given⟩ := (marker?_eq_some_iff named).mp marks
  obtain ⟨first, last, rfl, absent⟩ := List.eq_append_cons_of_mem closed
  have absent' : ';' ∉ '}' :: (gap ++ (found ++ gap')) := by
    simp only [List.mem_cons, List.mem_append]
    rintro (mark | early | inside | late)
    · cases mark
    · exact absurd (blank _ early) (by decide)
    · exact absurd (isWord_of_isName isNamed _ inside) (by decide)
    · exact absurd (blank' _ late) (by decide)
  have split : first ++ ';' :: (last ++ more) = '}' :: (gap ++ (found ++ gap')) ++ ';' :: rest := by
    simpa using same
  -- both texts end before their first semicolon
  have parts := congrArg (splitOn ';') split
  rw [splitOn_append absent, splitOn_append absent'] at parts
  have whole : marker? name (first ++ ';' :: last) = some (found, last) := by
    refine (marker?_eq_some_iff named).mpr ⟨gap, gap', ?_, blank, blank', isNamed, given⟩
    simp [(List.cons.inj parts).1]
  cases none.symm.trans whole

theorem splitAtMarker?_suffix {s body found rest : List Char}
    (splits : splitAtMarker? name s = some (body, found, rest)) : ';' :: rest <:+ s := by
  induction s generalizing body with
  | nil => cases splits
  | cons c s ih =>
    rw [splitAtMarker?] at splits
    split at splits
    · rename_i marks
      cases Option.some.inj splits
      exact marker?_suffix named marks
    · obtain ⟨⟨inner, found', rest'⟩, inside, same⟩ := Option.map_eq_some_iff.mp splits
      cases same
      exact (ih inside).trans (List.suffix_cons c s)

/-- The first marker of a text stays the first one, since none that begins
before it can end behind it. -/
theorem splitAtMarker?_followed {s body found rest : List Char}
    (splits : splitAtMarker? name s = some (body, found, rest)) (more : List Char) :
    splitAtMarker? name (s ++ more) = some (body, found, rest ++ more) := by
  induction s generalizing body with
  | nil => cases splits
  | cons c s ih =>
    rw [splitAtMarker?] at splits
    rw [List.cons_append, splitAtMarker?]
    split at splits
    · rename_i marks
      cases Option.some.inj splits
      rw [← List.cons_append, marker?_followed named marks]
    · rename_i none
      obtain ⟨⟨inner, found', rest'⟩, inside, same⟩ := Option.map_eq_some_iff.mp splits
      cases same
      have closed : ';' ∈ c :: s :=
        List.mem_cons_of_mem c ((splitAtMarker?_suffix named inside).subset List.mem_cons_self)
      rw [← List.cons_append, marker?_followed_of_none named none closed, ih inside]
      rfl

end Markers

theorem opening?_suffix {s rest : List Char} (opens : opening? s = some rest) : rest <:+ s := by
  obtain ⟨margin, gap, rfl, -⟩ := opening?_eq_some_iff.mp opens
  exact ⟨margin ++ ("typedef".toList ++ (gap ++ "struct".toList)), by simp⟩

theorem opening?_followed_of_some {s tail : List Char} (ended : s.getLast? = some '\n')
    (opens : opening? s = some tail) (more : List Char) :
    opening? (s ++ more) = some (tail ++ more) := by
  obtain ⟨margin, gap, rfl, narrow, filled, blank, stop⟩ := opening?_eq_some_iff.mp opens
  have some : tail ≠ [] := by
    rintro rfl
    have same : margin ++ ("typedef".toList ++ (gap ++ ("struct".toList ++ []))) =
        (margin ++ ("typedef".toList ++ gap)) ++ "struct".toList := by simp
    rw [same, List.getLast?_append] at ended
    exact absurd (Option.some.inj ended) (by decide)
  rw [← startsWith_append some more] at stop
  exact opening?_eq_some_iff.mpr ⟨margin, gap, by simp, narrow, filled, blank, stop⟩

theorem isBlank_of_margin {c : Char} (narrow : c = ' ' || c = '\t') : isBlank c := by
  have space : c = ' ' ∨ c = '\t' := by simpa using narrow
  rcases space with rfl | rfl <;> rfl

/-- More text opens a definition only behind a last word `typedef`. -/
theorem exists_opening?_of_followed {s more rest : List Char} (ended : s.getLast? = some '\n')
    (whole : lastWord s ≠ "typedef".toList) (opens : opening? (s ++ more) = some rest) :
    ∃ tail, opening? s = some tail ∧ rest = tail ++ more := by
  obtain ⟨w, rfl⟩ := List.getLast?_eq_some_iff.mp ended
  obtain ⟨margin, gap, same, narrow, filled, blank, stop⟩ := opening?_eq_some_iff.mp opens
  have split : w ++ '\n' :: more =
      (margin ++ "typedef".toList) ++ (gap ++ ("struct".toList ++ rest)) := by simpa using same
  have absent : '\n' ∉ margin ++ "typedef".toList := by
    rw [List.mem_append]
    rintro (early | late)
    · exact absurd (narrow _ early) (by decide)
    · exact absurd late (by decide)
  -- the newline stands behind the first word, either among the blanks or behind the second word
  obtain ⟨inside, rfl, reach⟩ := exists_append_of_append split absent
  rcases List.append_eq_append_iff.mp reach with ⟨inner, rfl, tail⟩ | ⟨after, rfl, -⟩
  · obtain ⟨last, rfl, rfl⟩ := exists_append_of_append tail.symm (by decide)
    refine ⟨last ++ ['\n'], ?_, by simp⟩
    refine opening?_eq_some_iff.mpr ⟨margin, gap, by simp, narrow, filled, blank, ?_⟩
    rw [← startsWith_append (by simp) more]
    simpa using stop
  · refine absurd ?_ whole
    have trail : ∀ c ∈ inside ++ ['\n'], isBlank c := by
      intro c member
      rcases List.mem_append.mp member with old | new
      · exact blank c (List.mem_append_left _ old)
      · cases List.mem_singleton.mp new
        rfl
    have all : "typedef".toList.all isWord := by decide
    have visible : ∀ c ∈ "typedef".toList, isBlank c = false := fun c member =>
      isBlank_of_isWord (List.all_eq_true.mp all c member)
    have last := lastWord_of_trail (fun c member => isBlank_of_margin (narrow c member)) visible
      (by simp) trail
    simpa using last

theorem opening?_followed {s : List Char} (ended : s.getLast? = some '\n')
    (whole : lastWord s ≠ "typedef".toList) (more : List Char) :
    opening? (s ++ more) = (opening? s).map (· ++ more) := by
  cases opens : opening? s with
  | some tail => exact opening?_followed_of_some ended opens more
  | none =>
    refine Option.eq_none_iff_forall_ne_some.mpr fun rest opens' => ?_
    obtain ⟨tail, opens'', -⟩ := exists_opening?_of_followed ended whole opens'
    cases opens.symm.trans opens''

theorem readDefinition_suffix {line : Nat} {s rest : List Char} {finding : Finding}
    (read : readDefinition line s = .ok (finding, rest)) : ';' :: rest <:+ s := by
  rcases readDefinition_cases read with ⟨tag, inside, body, found, head, split, -⟩ |
    ⟨tag, after, head, -, -, ends, -⟩
  · have marked := splitAtMarker?_suffix (isName_of_mem_givenName head) split
    exact marked.trans ((List.suffix_cons '{' inside).trans (readHead_suffix head))
  · exact (declarationEnd?_suffix ends).trans (readHead_suffix head)

theorem readDefinition_followed {line : Nat} {s rest : List Char} {finding : Finding}
    (lines : Lines s) (read : readDefinition line s = .ok (finding, rest)) (more : List Char) :
    readDefinition line (s ++ more) = .ok (finding, rest ++ more) := by
  rcases readDefinition_cases read with ⟨tag, inside, body, found, head, split, rfl⟩ |
    ⟨tag, after, head, filled, other, ends, rfl⟩
  · exact readDefinition_of_marker (readHead_followed lines head (List.cons_ne_nil _ _) more)
      (splitAtMarker?_followed (isName_of_mem_givenName head) split more) line
  · have inner := lines.of_suffix (readHead_suffix head) filled
    rw [← startsWith_append filled more] at other
    exact readDefinition_of_semicolon (readHead_followed lines head filled more)
      (List.append_ne_nil_of_left_ne_nil filled _) other (declarationEnd?_followed inner ends more) line

end HeaderTypes.Header
