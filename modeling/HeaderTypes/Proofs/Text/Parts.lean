import HeaderTypes.Proofs.Text.Words

namespace HeaderTypes.Text

theorem dropBlanks_of_blank {s : List Char} (blank : ∀ c ∈ s, isBlank c) : dropBlanks s = [] := by
  have none := dropBlanks_append blank []
  rwa [List.append_nil] at none

theorem startsWith_append {kind : Char → Bool} {s : List Char} (some : s ≠ []) (rest : List Char) :
    startsWith kind (s ++ rest) = startsWith kind s := by
  cases s with
  | nil => exact absurd rfl some
  | cons c s => rfl

theorem startsWith_of_mem {kind : Char → Bool} {s : List Char} (all : ∀ c ∈ s, kind c)
    (some : s ≠ []) : startsWith kind s := by
  cases s with
  | nil => exact absurd rfl some
  | cons c s => exact all c List.mem_cons_self

/-- A part without a certain character ends before the first of them. -/
theorem exists_append_of_append {s t first rest : List Char} {d : Char}
    (same : s ++ d :: t = first ++ rest) (absent : d ∉ first) :
    ∃ inside, s = first ++ inside ∧ rest = inside ++ d :: t := by
  rcases List.append_eq_append_iff.mp same with ⟨extra, head, tail⟩ | ⟨inside, head, tail⟩
  · cases extra with
    | nil => exact ⟨[], by simp [head], tail.symm⟩
    | cons c extra =>
      cases (List.cons.inj tail).1
      exact absurd (head ▸ List.mem_append_right s List.mem_cons_self) absent
  · exact ⟨inside, head, tail⟩

/-- What follows a part without a certain character ends with all from that character on. -/
theorem exists_suffix_of_append {s t first rest : List Char} {d : Char}
    (same : s ++ d :: t = first ++ rest) (absent : d ∉ first) :
    ∃ inside, inside <:+ s ∧ rest = inside ++ d :: t := by
  obtain ⟨inside, head, tail⟩ := exists_append_of_append same absent
  exact ⟨inside, ⟨first, head.symm⟩, tail⟩

/-- Blanks at either end go, and a text that begins and ends with none stays. -/
theorem trim_append {lead s trail : List Char} (before : ∀ c ∈ lead, isBlank c)
    (after : ∀ c ∈ trail, isBlank c) (first : startsWith isBlank s = false)
    (last : startsWith isBlank s.reverse = false) : trim (lead ++ s ++ trail) = s := by
  have final : ∀ c ∈ trail.reverse, isBlank c := fun c member => after c (List.mem_reverse.mp member)
  rw [trim, dropFinalBlanks, List.append_assoc, dropBlanks_append before]
  cases s with
  | nil => rw [List.nil_append, dropBlanks_of_blank after]; rfl
  | cons c s =>
    rw [dropBlanks_of_visible (s := c :: s ++ trail) first, List.reverse_append]
    change (dropBlanks (trail.reverse ++ (c :: s).reverse)).reverse = _
    rw [dropBlanks_append final, dropBlanks_of_visible last, List.reverse_reverse]

theorem trim_of_blank {s : List Char} (blank : ∀ c ∈ s, isBlank c) : trim s = [] := by
  have none : trim (s ++ [] ++ []) = [] := trim_append blank nofun rfl rfl
  rwa [List.append_nil, List.append_nil] at none

/-- A text without blanks at its ends begins and ends with none. -/
theorem visible_of_trim {s : List Char} (trimmed : trim s = s) :
    startsWith isBlank s = false ∧ startsWith isBlank s.reverse = false := by
  have last : startsWith isBlank s.reverse = false := by
    have reversed : s.reverse = (dropBlanks s).reverse.dropWhile isBlank := by
      rw [← List.reverse_reverse (List.dropWhile isBlank _)]
      exact congrArg List.reverse trimmed.symm
    rw [reversed]
    exact startsWith_dropWhile isBlank _
  refine ⟨?_, last⟩
  have bound := congrArg List.length trimmed
  have final : (trim s).length ≤ (dropBlanks s).length := by
    have fewer : ((dropBlanks s).reverse.dropWhile isBlank).length ≤ (dropBlanks s).reverse.length :=
      (List.dropWhile_sublist _).length_le
    rw [trim, dropFinalBlanks, List.length_reverse]
    rwa [List.length_reverse] at fewer
  have whole : dropBlanks s = s :=
    (List.dropWhile_sublist isBlank).eq_of_length_le (by rw [← bound]; exact final)
  rw [← whole]
  exact startsWith_dropWhile isBlank s

/-- A text that ends with no blank has no part at its end that does. -/
theorem final_of_suffix {t s : List Char} (tail : t <:+ s)
    (final : startsWith isBlank s.reverse = false) : startsWith isBlank t.reverse = false := by
  obtain ⟨before, rfl⟩ := tail
  by_cases empty : t = []
  · rw [empty]
    rfl
  · have filled : t.reverse ≠ [] := by simpa using empty
    rwa [List.reverse_append, startsWith_append filled] at final

theorem dropFinalBlanks_append (s : List Char) :
    ∃ gap, s = dropFinalBlanks s ++ gap ∧ (∀ c ∈ gap, isBlank c) ∧
      startsWith isBlank (dropFinalBlanks s).reverse = false := by
  refine ⟨(s.reverse.takeWhile isBlank).reverse, ?_, ?_, ?_⟩
  · have whole := congrArg List.reverse (List.takeWhile_append_dropWhile (p := isBlank) (l := s.reverse))
    rw [List.reverse_append, List.reverse_reverse] at whole
    exact whole.symm
  · intro c member
    exact List.mem_takeWhile_imp (List.mem_reverse.mp member)
  · rw [dropFinalBlanks, List.reverse_reverse]
    exact startsWith_dropWhile isBlank _

theorem readName?_dropBlanks_iff {s name rest : List Char} :
    readName? (dropBlanks s) = some (name, rest) ↔
      ∃ gap, s = gap ++ (name ++ rest) ∧ (∀ c ∈ gap, isBlank c) ∧ isName name ∧
        startsWith isWord rest = false := by
  constructor
  · intro read
    obtain ⟨same, named, stop⟩ := readName?_eq_some_iff.mp read
    refine ⟨s.takeWhile isBlank, ?_, fun _ => List.mem_takeWhile_imp, named, stop⟩
    rw [← same, dropBlanks, List.takeWhile_append_dropWhile]
  · rintro ⟨gap, rfl, blank, named, stop⟩
    have visible : startsWith isBlank (name ++ rest) = false := by
      obtain ⟨c, tail, rfl, start, _⟩ := isName_iff.mp named
      exact isBlank_of_isWord (isWord_of_isNameStart start)
    rw [dropBlanks_append blank, dropBlanks_of_visible visible]
    exact readName?_eq_some_iff.mpr ⟨rfl, named, stop⟩

/-- The last word of a text, where words are parted by blanks. -/
def lastWord (s : List Char) : List Char :=
  ((dropBlanks s.reverse).takeWhile fun c => !isBlank c).reverse

/-- What stands before a blank has no part in the last word behind it. -/
theorem lastWord_append {before s : List Char} (some : lastWord s ≠ [])
    (blank : startsWith (fun c => !isBlank c) before.reverse = false) :
    lastWord (before ++ s) = lastWord s := by
  have filled : dropBlanks s.reverse ≠ [] := fun none => some (by simp [lastWord, none])
  have stop : before.reverse.takeWhile (fun c => !isBlank c) = [] :=
    takeWhile_append_stop (a := []) nofun blank
  have reach : dropBlanks (s.reverse ++ before.reverse) = dropBlanks s.reverse ++ before.reverse := by
    rw [dropBlanks, List.dropWhile_append, if_neg (by simpa [dropBlanks] using filled), dropBlanks]
  rw [lastWord, lastWord, List.reverse_append, reach, List.takeWhile_append, stop, List.append_nil]
  split
  · rename_i whole
    rw [(List.takeWhile_prefix _).eq_of_length whole]
  · rfl

theorem lastWord_of_trail {lead w trail : List Char} (before : ∀ c ∈ lead, isBlank c)
    (visible : ∀ c ∈ w, isBlank c = false) (some : w ≠ []) (after : ∀ c ∈ trail, isBlank c) :
    lastWord (lead ++ (w ++ trail)) = w := by
  have reach : dropBlanks (trail.reverse ++ w.reverse) = w.reverse := by
    rw [dropBlanks_append fun c member => after c (List.mem_reverse.mp member)]
    refine dropBlanks_of_visible ?_
    cases reversed : w.reverse with
    | nil => rfl
    | cons c t => exact visible c (List.mem_reverse.mp (reversed ▸ List.mem_cons_self))
  have kept : w.reverse.takeWhile (fun c => !isBlank c) = w.reverse := by
    have all : ∀ c ∈ w.reverse, (!isBlank c) = true := fun c member => by
      rw [visible c (List.mem_reverse.mp member), Bool.not_false]
    simpa using takeWhile_append_stop (b := []) all rfl
  have whole : lastWord (w ++ trail) = w := by
    rw [lastWord, List.reverse_append, reach, kept, List.reverse_reverse]
  have filled : lastWord (w ++ trail) ≠ [] := by rwa [whole]
  refine (lastWord_append filled ?_).trans whole
  cases reversed : lead.reverse with
  | nil => rfl
  | cons c t => simp [startsWith, before c (List.mem_reverse.mp (reversed ▸ List.mem_cons_self))]

theorem splitOn_of_not_mem {separator : Char} {s : List Char} (absent : separator ∉ s) :
    splitOn separator s = [s] := by
  induction s with
  | nil => rfl
  | cons c s ih =>
    obtain ⟨other, rest⟩ := not_or.mp (mt List.mem_cons.mpr absent)
    rw [splitOn, if_neg (Ne.symm other), ih rest]

theorem splitOn_append {separator : Char} {a : List Char} (absent : separator ∉ a) (b : List Char) :
    splitOn separator (a ++ separator :: b) = a :: splitOn separator b := by
  induction a with
  | nil => rw [List.nil_append, splitOn, if_pos rfl]
  | cons c a ih =>
    obtain ⟨other, rest⟩ := not_or.mp (mt List.mem_cons.mpr absent)
    rw [List.cons_append, splitOn, if_neg (Ne.symm other), ih rest]

theorem trimmedParts_append {separator : Char} {a : List Char} (absent : separator ∉ a)
    (some : trim a ≠ []) (b : List Char) :
    trimmedParts separator (a ++ separator :: b) = trim a :: trimmedParts separator b := by
  rw [trimmedParts, splitOn_append absent, List.map_cons, List.filter_cons_of_pos (by simpa)]
  rfl

theorem trimmedParts_of_not_mem {separator : Char} {s : List Char} (absent : separator ∉ s)
    (some : trim s ≠ []) : trimmedParts separator s = [trim s] := by
  rw [trimmedParts, splitOn_of_not_mem absent, List.map_singleton,
    List.filter_cons_of_pos (by simpa), List.filter_nil]

theorem trimmedParts_of_blank {separator : Char} (visible : isBlank separator = false)
    {s : List Char} (blank : ∀ c ∈ s, isBlank c) : trimmedParts separator s = [] := by
  have absent : separator ∉ s := fun member =>
    Bool.false_ne_true (visible.symm.trans (blank separator member))
  rw [trimmedParts, splitOn_of_not_mem absent, List.map_singleton, trim_of_blank blank]
  rfl

theorem trim_trim (s : List Char) : trim (trim s) = trim s := by
  obtain ⟨gap, whole, -, last⟩ := dropFinalBlanks_append (dropBlanks s)
  have first : startsWith isBlank (trim s) = false := by
    by_cases empty : trim s = []
    · rw [empty]
      rfl
    · have visible : startsWith isBlank (dropBlanks s) = false := startsWith_dropWhile isBlank s
      rw [whole, ← trim, startsWith_append empty] at visible
      exact visible
  have again : trim ([] ++ trim s ++ []) = trim s := trim_append nofun nofun first last
  simpa using again

/-- Trimming takes blanks alone. -/
theorem mem_trim_of_mem {s : List Char} {c : Char} (visible : isBlank c = false) (member : c ∈ s) :
    c ∈ trim s := by
  have dark {gap : List Char} (blank : ∀ d ∈ gap, isBlank d) : c ∉ gap := fun held =>
    Bool.false_ne_true (visible.symm.trans (blank c held))
  obtain ⟨gap, whole, blank, -⟩ := dropFinalBlanks_append (dropBlanks s)
  have lead : s.takeWhile isBlank ++ dropBlanks s = s := List.takeWhile_append_dropWhile
  rw [← lead, whole, List.mem_append, List.mem_append] at member
  rcases member with before | inside | behind
  · exact absurd before (dark fun _ => List.mem_takeWhile_imp)
  · exact inside
  · exact absurd behind (dark blank)

theorem exists_mem_splitOn {separator c : Char} (other : c ≠ separator) {s : List Char}
    (member : c ∈ s) : ∃ part ∈ splitOn separator s, c ∈ part := by
  induction s with
  | nil => cases member
  | cons d s ih =>
    rw [splitOn]
    by_cases here : d = separator
    · rw [if_pos here]
      have later := (List.mem_cons.mp member).resolve_left fun same => other (same.trans here)
      obtain ⟨part, listed, held⟩ := ih later
      exact ⟨part, List.mem_cons_of_mem _ listed, held⟩
    · rw [if_neg here]
      cases parts : splitOn separator s with
      | nil =>
        rcases List.mem_cons.mp member with rfl | later
        · exact ⟨[c], List.mem_cons_self, List.mem_cons_self⟩
        · obtain ⟨part, listed, -⟩ := ih later
          rw [parts] at listed
          cases listed
      | cons first rest =>
        rcases List.mem_cons.mp member with rfl | later
        · exact ⟨c :: first, List.mem_cons_self, List.mem_cons_self⟩
        · obtain ⟨part, listed, held⟩ := ih later
          rw [parts] at listed
          rcases List.mem_cons.mp listed with rfl | listed
          · exact ⟨d :: part, List.mem_cons_self, List.mem_cons_of_mem _ held⟩
          · exact ⟨part, List.mem_cons_of_mem _ listed, held⟩

/-- No character of a text is lost between its trimmed parts but blanks and separators. -/
theorem exists_mem_trimmedParts {separator c : Char} (other : c ≠ separator)
    (visible : isBlank c = false) {s : List Char} (member : c ∈ s) :
    ∃ part ∈ trimmedParts separator s, c ∈ part := by
  obtain ⟨part, listed, held⟩ := exists_mem_splitOn other member
  have inside := mem_trim_of_mem visible held
  refine ⟨trim part, List.mem_filter.mpr ⟨List.mem_map_of_mem listed, ?_⟩, inside⟩
  exact decide_eq_true (List.ne_nil_of_mem inside)

theorem trim_of_mem_trimmedParts {separator : Char} {s part : List Char}
    (member : part ∈ trimmedParts separator s) : trim part = part := by
  obtain ⟨raw, -, rfl⟩ := List.mem_map.mp (List.mem_filter.mp member).1
  exact trim_trim raw

end HeaderTypes.Text
