import HeaderTypes.Proofs.Text.Respaced
import HeaderTypes.Proofs.TypeName.Canonical

namespace HeaderTypes.TypeName
open Text

/-- A rule that sets characters apart: it is told of the visible character before, if there is one,
whether blanks stand between the two, and of the character itself. -/
abbrev Apart := Option Char → Bool → Char → Bool

/-- The visible characters of a text, with one space before each that the rule sets apart. -/
def spaced (apart : Apart) (last : Option Char) (gap : Bool) : List Char → List Char
  | [] => []
  | c :: s =>
    if isBlank c then spaced apart last true s
    else (if apart last gap c then [' '] else []) ++ c :: spaced apart (some c) false s

section
variable {apart : Apart} {last : Option Char} {gap : Bool}

theorem spaced_of_blank {c : Char} (blank : isBlank c) (s : List Char) :
    spaced apart last gap (c :: s) = spaced apart last true s := by
  rw [spaced, if_pos blank]

theorem spaced_of_visible {c : Char} (dark : isBlank c = false) (s : List Char) :
    spaced apart last gap (c :: s) =
      (if apart last gap c then [' '] else []) ++ c :: spaced apart (some c) false s := by
  rw [spaced, if_neg (Bool.eq_false_iff.mp dark)]

theorem spaced_of_apart {c : Char} (dark : isBlank c = false) (rule : apart last gap c = true)
    (s : List Char) :
    spaced apart last gap (c :: s) = ' ' :: c :: spaced apart (some c) false s := by
  rw [spaced_of_visible dark, if_pos rule]
  rfl

theorem spaced_of_near {c : Char} (dark : isBlank c = false) (rule : apart last gap c = false)
    (s : List Char) : spaced apart last gap (c :: s) = c :: spaced apart (some c) false s := by
  rw [spaced_of_visible dark, if_neg (Bool.eq_false_iff.mp rule)]
  rfl

theorem spaced_append_of_blank {a : List Char} (some : a ≠ []) (blank : ∀ c ∈ a, isBlank c)
    (s : List Char) : spaced apart last gap (a ++ s) = spaced apart last true s := by
  induction a generalizing gap with
  | nil => exact absurd rfl some
  | cons c a ih =>
    obtain ⟨first, others⟩ := List.forall_mem_cons.mp blank
    rw [List.cons_append, spaced_of_blank first]
    by_cases empty : a = []
    · rw [empty, List.nil_append]
    · exact ih empty others

/-- All that a rule is told of the blanks at the head of a text is whether there are any. -/
theorem spaced_dropBlanks (s : List Char) :
    spaced apart last gap s = spaced apart last (gap || startsWith isBlank s) (dropBlanks s) := by
  by_cases begun : startsWith isBlank s
  · have whole : s.takeWhile isBlank ++ dropBlanks s = s := List.takeWhile_append_dropWhile
    have some : s.takeWhile isBlank ≠ [] := by
      intro none
      rw [none, List.nil_append] at whole
      rw [← whole, dropBlanks, startsWith_dropWhile] at begun
      cases begun
    have opened : spaced apart last gap (s.takeWhile isBlank ++ dropBlanks s) = _ :=
      spaced_append_of_blank some (fun _ => List.mem_takeWhile_imp) (dropBlanks s)
    rw [whole] at opened
    rw [opened, begun, Bool.or_true]
  · have dark := Bool.eq_false_iff.mpr begun
    rw [dark, Bool.or_false, dropBlanks_of_visible dark]

theorem spaced_of_respaced {s t : List Char} (respaced : Respaced s t) :
    spaced apart last gap s = spaced apart last gap t := by
  induction respaced generalizing last gap with
  | nil => rfl
  | visible dark _ ih => rw [spaced_of_visible dark, spaced_of_visible dark, ih]
  | gap some some' blank blank' _ ih =>
    rw [spaced_append_of_blank some blank, spaced_append_of_blank some' blank', ih]

end

/-- Tokens are set apart: the first of some stars from what stands before it, and other characters
where blanks stand before them, words also from stars. -/
def tokenApart : Apart
  | none, _, _ => false
  | some last, gap, c => if c = '*' then last ≠ '*' else gap || last = '*' && isWord c

theorem tokenApart_star_star (gap : Bool) : tokenApart (some '*') gap '*' = false := rfl

theorem tokenApart_plain_plain {p c : Char} (plain : isPlain p) (plain' : isPlain c) :
    tokenApart (some p) false c = false := by
  simp [tokenApart, (isPlain_iff.mp plain).2, (isPlain_iff.mp plain').2]

/-- What comes next is set apart from the character before. -/
def Parted (last : Char) (gap : Bool) (s : List Char) : Prop :=
  ∀ c rest, dropBlanks s = c :: rest → tokenApart (some last) (gap || startsWith isBlank s) c = true

theorem Parted.blank {last c : Char} {gap : Bool} {s : List Char} (blank : isBlank c)
    (parted : Parted last gap (c :: s)) : Parted last true s := by
  intro d rest next
  have same : dropBlanks (c :: s) = dropBlanks s := List.dropWhile_cons_of_pos blank
  have rule := parted d rest (same.trans next)
  rwa [show startsWith isBlank (c :: s) = true from blank, Bool.or_true] at rule

theorem Parted.visible {last c : Char} {gap : Bool} {s : List Char} (dark : isBlank c = false)
    (parted : Parted last gap (c :: s)) : tokenApart (some last) gap c = true := by
  have rule := parted c s (dropBlanks_of_visible (s := c :: s) dark)
  rwa [show startsWith isBlank (c :: s) = false from dark, Bool.or_false] at rule

/-- Behind plain characters that end here comes a token of its own. -/
theorem parted_of_plain {p : Char} (plain : isPlain p) {s : List Char}
    (stop : startsWith isPlain s = false) : Parted p false s := by
  intro c rest next
  obtain ⟨_, other⟩ := isPlain_iff.mp plain
  by_cases star : c = '*'
  · simp [tokenApart, star, other]
  · have begun : startsWith isBlank s = true := by
      refine Bool.not_eq_false _ ▸ fun dark => ?_
      rw [dropBlanks_of_visible dark] at next
      subst next
      have plain' : isPlain c := isPlain_iff.mpr ⟨dark, star⟩
      exact Bool.false_ne_true (stop.symm.trans plain')
    simp [tokenApart, star, begun]

/-- Behind a run of stars to which nothing clings comes a token of its own. -/
theorem parted_of_stars {s : List Char} (next : starNext s = false) (bare : clinging s = []) :
    Parted '*' false s := by
  intro c rest same
  have star : c ≠ '*' := by
    rintro rfl
    exact absurd (starNext_iff.mpr ⟨rest, same⟩) (by simp [next])
  by_cases begun : startsWith isBlank s
  · simp [tokenApart, star, begun]
  · have dark := Bool.eq_false_iff.mpr begun
    rw [dropBlanks_of_visible dark] at same
    subst same
    have plain : isPlain c := isPlain_iff.mpr ⟨dark, star⟩
    have word : isWord c := by
      refine Bool.not_eq_false _ ▸ fun other => ?_
      simp [clinging, plain, other] at bare
    simp [tokenApart, star, word]

theorem spaced_plain {p : Char} (plain : isPlain p) {t : List Char} (others : ∀ c ∈ t, isPlain c)
    (s : List Char) :
    ∃ q, isPlain q ∧ spaced tokenApart (some p) false (t ++ s) =
      t ++ spaced tokenApart (some q) false s := by
  induction t generalizing p with
  | nil => exact ⟨p, plain, rfl⟩
  | cons c t ih =>
    obtain ⟨first, rest⟩ := List.forall_mem_cons.mp others
    obtain ⟨q, plain', same⟩ := ih first rest
    have dark := (isPlain_iff.mp first).1
    refine ⟨q, plain', ?_⟩
    rw [List.cons_append, spaced_of_near dark (tokenApart_plain_plain plain first), same,
      List.cons_append]

theorem spaced_readStars (s : List Char) :
    spaced tokenApart (some '*') false s =
      List.replicate (readStars s).1 '*' ++ spaced tokenApart (some '*') false (readStars s).2 := by
  fun_induction readStars s with
  | case1 s rest same shorter run ih =>
    rw [spaced_dropBlanks, same, spaced_of_near rfl (tokenApart_star_star _), ih,
      List.replicate_succ, List.cons_append]
  | case2 s _ => rfl

/-- What clings to a star ends where no plain character follows. -/
theorem clinging_cases (s : List Char) :
    clinging s = [] ∨ ∃ c t rest, s = c :: t ++ rest ∧ clinging s = c :: t ∧ isWord c = false ∧
      (∀ d ∈ c :: t, isPlain d) ∧ startsWith isPlain rest = false := by
  cases s with
  | nil => exact Or.inl rfl
  | cons c s =>
    by_cases clings : isPlain c && !isWord c
    · have same : clinging (c :: s) = c :: s.takeWhile isPlain := if_pos clings
      have plain := clinging_clings (c :: s)
      rw [same] at plain
      refine Or.inr ⟨c, s.takeWhile isPlain, s.dropWhile isPlain, ?_, same, plain.1, plain.2,
        startsWith_dropWhile _ _⟩
      rw [List.cons_append, List.takeWhile_append_dropWhile]
    · exact Or.inl (if_neg clings)

/-- Tokens with a space before each of them. -/
def trailing (ts : List (List Char)) : List Char := ts.flatMap (' ' :: ·)

theorem spaced_parted (s : List Char) : ∀ last gap, Parted last gap s →
    spaced tokenApart (some last) gap s = trailing (tokens s) := by
  fun_induction tokens s with
  | case1 => exact fun _ _ _ => rfl
  | case2 c s blank ih =>
    intro last gap parted
    rw [spaced_of_blank blank, ih last true (parted.blank blank)]
  | case3 s run seen ih =>
    intro last gap parted
    have dark : isBlank '*' = false := rfl
    rw [spaced_of_apart dark (parted.visible dark), spaced_readStars]
    change _ :: _ :: (List.replicate run.1 '*' ++ spaced tokenApart (some '*') false run.2) = _
    rcases clinging_cases run.2 with bare | ⟨c, t, rest, whole, clings, other, plain, stop⟩
    · have next := parted_of_stars (starNext_readStars s) bare
      rw [bare, List.length_nil, List.drop_zero] at ih ⊢
      rw [ih '*' false next]
      simp [trailing, List.replicate_succ]
    · obtain ⟨first, others⟩ := List.forall_mem_cons.mp plain
      have near : tokenApart (some '*') false c = false := by
        simp [tokenApart, (isPlain_iff.mp first).2, other]
      obtain ⟨q, plain', same⟩ := spaced_plain first others rest
      have left : run.2.drop (clinging run.2).length = rest := by rw [clings, whole, List.drop_left]
      rw [left] at ih ⊢
      rw [clings, whole, List.cons_append, spaced_of_near (isPlain_iff.mp first).1 near, same,
        ih q false (parted_of_plain plain' stop)]
      simp [trailing, List.replicate_succ]
  | case4 c s seen other ih =>
    intro last gap parted
    have dark := Bool.eq_false_iff.mpr seen
    have plain : isPlain c := isPlain_iff.mpr ⟨dark, other⟩
    obtain ⟨q, plain', same⟩ := spaced_plain plain (fun _ => List.mem_takeWhile_imp)
      (s.dropWhile isPlain)
    rw [List.takeWhile_append_dropWhile] at same
    rw [spaced_of_apart dark (parted.visible dark), same,
      ih q false (parted_of_plain plain' (startsWith_dropWhile _ _))]
    simp [trailing]

theorem intercalate_eq_tail (ts : List (List Char)) :
    [' '].intercalate ts = (trailing ts).tail := by
  induction ts with
  | nil => rfl
  | cons t ts ih =>
    cases ts with
    | nil => simp [trailing]
    | cons u ts =>
      rw [List.intercalate_cons_cons, ih]
      simp [trailing]

/-- At the head of a text nothing is set apart. -/
theorem spaced_none (gap : Bool) (s : List Char) :
    spaced tokenApart none gap s = (spaced tokenApart (some 'a') true s).tail := by
  induction s generalizing gap with
  | nil => rfl
  | cons c s ih =>
    by_cases blank : isBlank c
    · rw [spaced_of_blank blank, spaced_of_blank blank, ih]
    · have dark := Bool.eq_false_iff.mpr blank
      have parted : tokenApart (some 'a') true c = true := by simp [tokenApart]
      rw [spaced_of_near dark rfl, spaced_of_apart dark parted]
      rfl

/-- The canonical spelling is written in one reading: the visible characters, and a space before
each that is set apart from the one before it. -/
theorem spelling_eq_spaced (s : List Char) : spelling s = spaced tokenApart none false s := by
  have parted : Parted 'a' true s := fun c _ _ => by simp [tokenApart]
  rw [spaced_none, spaced_parted s 'a' true parted, spelling, intercalate_eq_tail]

/-- Blanks are not told apart, whatever the type expression. -/
theorem spelling_of_respaced {s t : List Char} (respaced : Respaced s t) :
    spelling s = spelling t := by
  rw [spelling_eq_spaced, spelling_eq_spaced, spaced_of_respaced respaced]

end HeaderTypes.TypeName
