import HeaderTypes.Proofs.TypeName.Spaced

namespace HeaderTypes.TypeName
open Text

/-- Each run of blanks becomes one space. -/
def squeeze : List Char → List Char
  | [] => []
  | c :: s =>
    if isBlank c then if startsWith isBlank s then squeeze s else ' ' :: squeeze s
    else c :: squeeze s

/-- Blanks between two stars go. -/
def joinStars : List Char → List Char
  | [] => []
  | c :: s => if c = '*' && starNext s then c :: joinStars (dropBlanks s) else c :: joinStars s
termination_by s => s.length
decreasing_by
  · have := dropBlanks_length_le s
    simp only [List.length_cons]; omega
  · exact Nat.lt_succ_self _

theorem dropWhile_star_length_lt {s : List Char} (next : starNext s) :
    ((dropBlanks s).dropWhile (· = '*')).length < s.length := by
  obtain ⟨rest, same⟩ := starNext_iff.mp next
  have bound := dropBlanks_length_le s
  have fewer : (rest.dropWhile (· = '*')).length ≤ rest.length :=
    (List.dropWhile_sublist _).length_le
  rw [same, List.length_cons] at bound
  rw [same, List.dropWhile_cons_of_pos (by rfl)]
  omega

/-- One space stands before each run of stars, in place of the blanks that stood there. -/
def partBefore : List Char → List Char
  | [] => []
  | c :: s =>
    if starNext (c :: s) then
      ' ' :: (dropBlanks (c :: s)).takeWhile (· = '*') ++
        partBefore ((dropBlanks (c :: s)).dropWhile (· = '*'))
    else c :: partBefore s
termination_by s => s.length
decreasing_by
  · exact dropWhile_star_length_lt ‹_›
  · exact Nat.lt_succ_self _

/-- One space stands behind the last of some stars if a word comes next, in place of the blanks
that stood there. -/
def partBehind : List Char → List Char
  | [] => []
  | c :: s =>
    if c = '*' && startsWith isWord (dropBlanks s) then c :: ' ' :: partBehind (dropBlanks s)
    else c :: partBehind s
termination_by s => s.length
decreasing_by
  · have := dropBlanks_length_le s
    simp only [List.length_cons]; omega
  · exact Nat.lt_succ_self _

/-- A type expression as four passes leave it, each of which goes over what the one before it has
written. -/
def rewritten (s : List Char) : List Char :=
  trim (partBehind (partBefore (joinStars (trim (squeeze s)))))

/-- Every blank is a space with a visible character behind it. -/
inductive SingleSpaced : List Char → Prop
  | nil : SingleSpaced []
  | visible {c s} : isBlank c = false → SingleSpaced s → SingleSpaced (c :: s)
  | space {c s} : isBlank c = false → SingleSpaced s → SingleSpaced (' ' :: c :: s)

theorem singleSpaced_spaced (apart : Apart) (last : Option Char) (gap : Bool) (s : List Char) :
    SingleSpaced (spaced apart last gap s) := by
  induction s generalizing last gap with
  | nil => exact .nil
  | cons c s ih =>
    by_cases blank : isBlank c
    · rw [spaced_of_blank blank]
      exact ih last true
    · have dark := Bool.eq_false_iff.mpr blank
      cases rule : apart last gap c with
      | true =>
        rw [spaced_of_apart dark rule]
        exact .space dark (ih _ _)
      | false =>
        rw [spaced_of_near dark rule]
        exact .visible dark (ih _ _)

namespace SingleSpaced
variable {s : List Char}

theorem tail {c : Char} (single : SingleSpaced (c :: s)) : SingleSpaced s := by
  cases single with
  | visible _ rest => exact rest
  | space dark rest => exact .visible dark rest

theorem of_suffix {t : List Char} (single : SingleSpaced s) (later : t <:+ s) : SingleSpaced t := by
  induction s with
  | nil =>
    cases List.suffix_nil.mp later
    exact .nil
  | cons c s ih =>
    rcases List.suffix_cons_iff.mp later with rfl | rest
    · exact single
    · exact ih single.tail rest

theorem dropBlanks (single : SingleSpaced s) : SingleSpaced (dropBlanks s) :=
  single.of_suffix (List.dropWhile_suffix _)

/-- A blank is a space, and the character behind it is none. -/
theorem of_blank {c : Char} (single : SingleSpaced (c :: s)) (blank : isBlank c) :
    c = ' ' ∧ ∃ d rest, s = d :: rest ∧ isBlank d = false := by
  cases single with
  | visible dark _ => exact absurd blank (Bool.eq_false_iff.mp dark)
  | space dark _ => exact ⟨rfl, _, _, rfl, dark⟩

end SingleSpaced

/-- What one rule sets apart in what another one has written is set apart by a single rule. -/
theorem spaced_spaced (first second : Apart) (last : Option Char) (gap : Bool) (s : List Char) :
    spaced second last false (spaced first last gap s) =
      spaced (fun last gap c => second last (first last gap c) c) last gap s := by
  induction s generalizing last gap with
  | nil => rfl
  | cons c s ih =>
    by_cases blank : isBlank c
    · rw [spaced_of_blank blank, spaced_of_blank blank, ih]
    · have dark := Bool.eq_false_iff.mpr blank
      cases rule : first last gap c with
      | true =>
        rw [spaced_of_apart dark rule, spaced_of_blank rfl, spaced_of_visible dark,
          spaced_of_visible dark, ih, rule]
      | false =>
        rw [spaced_of_near dark rule, spaced_of_visible dark, spaced_of_visible dark, ih, rule]

/-- What a rule has written ends with no blank. -/
theorem spaced_final (apart : Apart) (last : Option Char) (gap : Bool) (s : List Char) :
    startsWith isBlank (spaced apart last gap s).reverse = false := by
  induction s generalizing last gap with
  | nil => rfl
  | cons c s ih =>
    by_cases blank : isBlank c
    · rw [spaced_of_blank blank, ih]
    · have dark := Bool.eq_false_iff.mpr blank
      rw [spaced_of_visible dark, List.reverse_append, List.reverse_cons, List.append_assoc]
      by_cases empty : spaced apart (some c) false s = []
      · rw [empty]
        exact dark
      · rw [startsWith_append (by simpa using empty), ih]

/-- A rule that sets nothing apart at the head of a text. -/
def inside (apart : Apart) : Apart := fun last gap c => last.isSome && apart last gap c

theorem inside_none (apart : Apart) (gap : Bool) (c : Char) : inside apart none gap c = false := rfl

theorem spaced_inside (apart : Apart) (c : Char) (gap : Bool) (s : List Char) :
    spaced (inside apart) (some c) gap s = spaced apart (some c) gap s := by
  induction s generalizing c gap with
  | nil => rfl
  | cons d s ih => simp only [spaced, ih, inside, Option.isSome_some, Bool.true_and]

theorem exists_lead (apart : Apart) (s : List Char) :
    ∃ lead, (∀ c ∈ lead, isBlank c) ∧
      spaced apart none false s = lead ++ spaced (inside apart) none false s ∧
      startsWith isBlank (spaced (inside apart) none false s) = false := by
  rw [spaced_dropBlanks, @spaced_dropBlanks (inside apart)]
  have dark : startsWith isBlank (dropBlanks s) = false := startsWith_dropWhile _ _
  cases rest : dropBlanks s with
  | nil => exact ⟨[], nofun, rfl, rfl⟩
  | cons c t =>
    rw [rest] at dark
    have dark : isBlank c = false := dark
    refine ⟨if apart none (false || startsWith isBlank s) c then [' '] else [], ?_, ?_, ?_⟩
    · intro d member
      split at member
      · cases List.mem_singleton.mp member
        rfl
      · cases member
    · rw [spaced_of_visible dark, spaced_of_near dark (inside_none apart _ c), spaced_inside]
    · rw [spaced_of_near dark (inside_none apart _ c)]
      exact dark

/-- Trimming takes the space before the first character, if there is one, and blanks at the end. -/
theorem trim_spaced (apart : Apart) (s : List Char) {trail : List Char}
    (blank : ∀ c ∈ trail, isBlank c) :
    trim (spaced apart none false s ++ trail) = spaced (inside apart) none false s := by
  obtain ⟨lead, before, same, first⟩ := exists_lead apart s
  rw [same]
  exact trim_append before blank first (spaced_final _ _ _ _)

/-- Blanks stay where they are. -/
def keep : Apart := fun _ gap _ => gap

theorem keep_apply (last : Option Char) (gap : Bool) (c : Char) : keep last gap c = gap := rfl

theorem exists_trail (s : List Char) :
    ∃ trail, (∀ c ∈ trail, isBlank c) ∧ ∀ last, squeeze s = spaced keep last false s ++ trail := by
  induction s with
  | nil => exact ⟨[], nofun, fun _ => rfl⟩
  | cons c s ih =>
    obtain ⟨trail, blank, same⟩ := ih
    by_cases gap : isBlank c
    · rw [squeeze, if_pos gap]
      simp only [spaced_of_blank gap]
      cases s with
      | nil => exact ⟨[' '], List.forall_mem_singleton.mpr rfl, fun _ => rfl⟩
      | cons d s =>
        by_cases more : isBlank d
        · rw [if_pos (show startsWith isBlank (d :: s) = true from more)]
          refine ⟨trail, blank, fun last => ?_⟩
          rw [same last, spaced_of_blank more, spaced_of_blank more]
        · have dark := Bool.eq_false_iff.mpr more
          rw [if_neg (show ¬ startsWith isBlank (d :: s) = true from more)]
          refine ⟨trail, blank, fun last => ?_⟩
          rw [same last, spaced_of_apart dark (keep_apply last true d),
            spaced_of_near dark (keep_apply last false d)]
          rfl
    · have dark := Bool.eq_false_iff.mpr gap
      refine ⟨trail, blank, fun last => ?_⟩
      rw [squeeze, if_neg gap, same (some c), spaced_of_near dark (keep_apply last false c)]
      rfl

theorem trim_squeeze (s : List Char) : trim (squeeze s) = spaced (inside keep) none false s := by
  obtain ⟨trail, blank, same⟩ := exists_trail s
  rw [same none, trim_spaced keep s blank]

/-- A space before a character that is set apart is written where it stands. -/
theorem spaced_space {apart : Apart} {last other : Option Char} {c : Char}
    (dark : isBlank c = false) (rule : apart last true c = true)
    (rule' : apart other false c = false) (s : List Char) :
    spaced apart last false (' ' :: c :: s) = ' ' :: spaced apart other false (c :: s) := by
  rw [spaced_of_blank rfl, spaced_of_apart dark rule, spaced_of_near dark rule']

/-- Blanks stay where they are, but not between stars. -/
def join : Apart := fun last gap c => gap && !(last = some '*' && c = '*')

theorem join_false (last : Option Char) (c : Char) : join last false c = false := rfl

theorem joinStars_eq (s : List Char) : ∀ last, SingleSpaced s →
    (last = some '*' → startsWith isBlank s → starNext s = false) →
    joinStars s = spaced join last false s := by
  fun_induction joinStars s with
  | case1 => exact fun _ _ _ => rfl
  | case2 c s star ih =>
    intro last single _
    obtain ⟨starred, next⟩ := Bool.and_eq_true_iff.mp star
    obtain rfl := of_decide_eq_true starred
    obtain ⟨rest, same⟩ := starNext_iff.mp next
    have begun : startsWith isBlank (dropBlanks s) = false := startsWith_dropWhile _ _
    have near (gap : Bool) : join (some '*') gap '*' = false := by simp [join]
    rw [spaced_of_near rfl (join_false last '*'), spaced_dropBlanks,
      ih (some '*') single.tail.dropBlanks fun _ blank => absurd blank (by simp [begun]), same,
      spaced_of_near rfl (near false), spaced_of_near rfl (near _)]
  | case3 c s other ih =>
    intro last single quiet
    by_cases blank : isBlank c
    · obtain ⟨rfl, d, rest, rfl, dark⟩ := single.of_blank blank
      have rule : join last true d = true := by
        by_cases star : last = some '*'
        · have next := quiet star rfl
          rw [starNext_of_blank blank, starNext_of_visible dark] at next
          simpa [join, star] using next
        · simp [join, star]
      rw [spaced_space dark rule (join_false none d), ih none single.tail nofun]
    · have dark := Bool.eq_false_iff.mpr blank
      rw [spaced_of_near dark (join_false last c), ih (some c) single.tail]
      intro star _
      cases star
      simpa using other

/-- Blanks stay where they are, and the first of some stars is set apart. -/
def before : Apart := fun last gap c => gap || c = '*' && last ≠ some '*'

theorem before_true (last : Option Char) (c : Char) : before last true c = true := rfl

theorem before_stars : before (some '*') false '*' = false := rfl

theorem spaced_stars (s : List Char) :
    spaced before (some '*') false s =
      s.takeWhile (· = '*') ++ spaced before (some '*') false (s.dropWhile (· = '*')) := by
  induction s with
  | nil => rfl
  | cons c s ih =>
    by_cases star : c = '*'
    · subst star
      rw [List.takeWhile_cons_of_pos (by rfl), List.dropWhile_cons_of_pos (by rfl),
        spaced_of_near rfl before_stars, ih, List.cons_append]
    · rw [List.takeWhile_cons_of_neg (by simpa using star),
        List.dropWhile_cons_of_neg (by simpa using star)]
      rfl

theorem partBefore_eq (s : List Char) : ∀ last, SingleSpaced s →
    (last = some '*' → startsWith (· = '*') s = false) →
    partBefore s = spaced before last false s := by
  fun_induction partBefore s with
  | case1 => exact fun _ _ _ => rfl
  | case2 c s next ih =>
    intro last single quiet
    obtain ⟨rest, same⟩ := starNext_iff.mp next
    have stop : startsWith (· = '*') ((dropBlanks (c :: s)).dropWhile (· = '*')) = false :=
      startsWith_dropWhile _ _
    have single' := single.dropBlanks.of_suffix (List.dropWhile_suffix (· = '*'))
    have rule : before last (false || startsWith isBlank (c :: s)) '*' = true := by
      by_cases blank : isBlank c
      · simp [before, startsWith, blank]
      · have dark := Bool.eq_false_iff.mpr blank
        rw [dropBlanks_of_visible (s := c :: s) dark] at same
        cases same
        have other : last ≠ some '*' := fun star => absurd (quiet star) (by simp [startsWith])
        simp [before, other]
    have written : spaced before last false (c :: s) = _ := spaced_dropBlanks (c :: s)
    rw [written, ih (some '*') single' fun _ => stop, same, spaced_of_apart rfl rule,
      spaced_stars rest, List.takeWhile_cons_of_pos (by rfl), List.dropWhile_cons_of_pos (by rfl)]
    rfl
  | case3 c s other ih =>
    intro last single quiet
    by_cases blank : isBlank c
    · obtain ⟨rfl, d, rest, rfl, dark⟩ := single.of_blank blank
      have star : d ≠ '*' := by
        rintro rfl
        exact other rfl
      have near : before none false d = false := by simp [before, star]
      have unstarred : none ≠ some '*' := (Option.some_ne_none '*').symm
      rw [spaced_space dark (before_true last d) near,
        ih none single.tail fun star => absurd star unstarred]
    · have dark := Bool.eq_false_iff.mpr blank
      have star : c ≠ '*' := by
        rintro rfl
        exact other rfl
      have near : before last false c = false := by simp [before, star]
      rw [spaced_of_near dark near, ih (some c) single.tail]
      rintro ⟨⟩
      exact absurd rfl star

/-- Blanks stay where they are, and words are set apart from stars. -/
def behind : Apart := fun last gap c => gap || last = some '*' && isWord c

theorem behind_true (last : Option Char) (c : Char) : behind last true c = true := rfl

theorem behind_none (c : Char) : behind none false c = false := rfl

theorem partBehind_eq (s : List Char) : ∀ last, SingleSpaced s →
    (last = some '*' → startsWith isWord s = false) →
    partBehind s = spaced behind last false s := by
  fun_induction partBehind s with
  | case1 => exact fun _ _ _ => rfl
  | case2 c s star ih =>
    intro last single _
    obtain ⟨starred, next⟩ := Bool.and_eq_true_iff.mp star
    obtain rfl := of_decide_eq_true starred
    have near : behind last false '*' = false := by simp [behind, show isWord '*' = false from rfl]
    rw [ih none single.tail.dropBlanks nofun, spaced_of_near rfl near, spaced_dropBlanks s]
    cases rest : dropBlanks s with
    | nil =>
      rw [rest] at next
      cases next
    | cons d t =>
      rw [rest] at next
      have word : isWord d := next
      have dark := isBlank_of_isWord word
      have rule : behind (some '*') (false || startsWith isBlank s) d = true := by
        simp [behind, word]
      rw [spaced_of_near dark (behind_none d), spaced_of_apart dark rule]
  | case3 c s other ih =>
    intro last single quiet
    by_cases blank : isBlank c
    · obtain ⟨rfl, d, rest, rfl, dark⟩ := single.of_blank blank
      rw [spaced_space dark (behind_true last d) (behind_none d), ih none single.tail nofun]
    · have dark := Bool.eq_false_iff.mpr blank
      have near : behind last false c = false := by
        by_cases star : last = some '*'
        · have stop : isWord c = false := quiet star
          simp [behind, stop]
        · simp [behind, star]
      rw [spaced_of_near dark near, ih (some c) single.tail]
      rintro ⟨⟩
      refine Bool.eq_false_iff.mpr fun word => other ?_
      have begun : startsWith isBlank s = false := by
        cases s with
        | nil => rfl
        | cons d t => exact isBlank_of_isWord word
      rw [dropBlanks_of_visible begun, word]
      rfl

/-- What the passes set apart one after the other is what the tokens of a type are told by. -/
theorem tokenApart_eq (last : Option Char) (gap : Bool) (c : Char) :
    tokenApart last gap c = inside (fun last gap c =>
      behind last (before last (join last (inside keep last gap c) c) c) c) last gap c := by
  cases last with
  | none => rfl
  | some p =>
    by_cases star : c = '*'
    · subst star
      have word : isWord '*' = false := rfl
      by_cases again : p = '*' <;>
        simp [tokenApart, inside, behind, before, join, keep, word, again]
    · simp [tokenApart, inside, behind, before, join, keep, star]

/-- The four passes together write what is written in one reading. -/
theorem spelling_eq_rewritten (s : List Char) : spelling s = rewritten s := by
  have single (apart : Apart) : SingleSpaced (spaced apart none false s) :=
    singleSpaced_spaced apart none false s
  have bare : ∀ c ∈ ([] : List Char), isBlank c := nofun
  have trimmed := trim_spaced (fun last gap c =>
    behind last (before last (join last (inside keep last gap c) c) c) c) s bare
  rw [List.append_nil] at trimmed
  rw [rewritten, trim_squeeze, joinStars_eq _ none (single _) nofun, spaced_spaced,
    partBefore_eq _ none (single _) nofun, spaced_spaced,
    partBehind_eq _ none (single _) nofun, spaced_spaced, trimmed, spelling_eq_spaced]
  refine congrArg (spaced · none false s) (funext fun last => funext fun gap => ?_)
  exact funext (tokenApart_eq last gap)

end HeaderTypes.TypeName
