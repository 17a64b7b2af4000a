import HeaderTypes.Proofs.Header.Definition

namespace HeaderTypes.Header
open Text

/-- A line that begins with anything blank but its margin opens no definition. -/
theorem opening?_eq_none {s : List Char}
    (blank : startsWith (fun c => !isBlank c) (s.dropWhile fun c => c = ' ' || c = '\t') = false) :
    opening? s = none := by
  unfold opening?
  split
  · rename_i rest dropped
    rw [dropText?_eq_some_iff.mp dropped, startsWith_append (by decide)] at blank
    exact absurd blank (by decide)
  · rfl

theorem opening?_of_margin {c : Char} (margin : c = ' ' || c = '\t') (s : List Char) :
    opening? (c :: s) = opening? s := by
  rw [opening?, List.dropWhile_cons_of_pos (by simpa using margin)]
  rfl

theorem opening?_of_isBlank {c : Char} (blank : isBlank c) (wide : ¬(c = ' ' || c = '\t'))
    (s : List Char) : opening? (c :: s) = none := by
  refine opening?_eq_none ?_
  rw [List.dropWhile_cons_of_neg (by simpa using wide)]
  simp [startsWith, blank]

/-- A definition opens with a margin, the word `typedef`, blanks and the word `struct`. -/
theorem opening?_eq_some_iff {s rest : List Char} :
    opening? s = some rest ↔ ∃ margin gap,
      s = margin ++ ("typedef".toList ++ (gap ++ ("struct".toList ++ rest))) ∧
        (∀ c ∈ margin, c = ' ' || c = '\t') ∧ gap ≠ [] ∧ (∀ c ∈ gap, isBlank c) ∧
        startsWith isWord rest = false := by
  constructor
  · intro opens
    unfold opening? at opens
    split at opens
    · rename_i after dropped
      split at opens
      · rename_i separate
        unfold structWord? at opens
        split at opens
        · rename_i tail dropped'
          split at opens
          · cases opens
          · rename_i stop
            cases opens
            refine ⟨s.takeWhile fun c => c = ' ' || c = '\t', after.takeWhile isBlank, ?_, ?_, ?_, ?_,
              Bool.eq_false_iff.mpr stop⟩
            · rw [← dropText?_eq_some_iff.mp dropped', dropBlanks, List.takeWhile_append_dropWhile,
                ← dropText?_eq_some_iff.mp dropped, List.takeWhile_append_dropWhile]
            · exact fun _ => List.mem_takeWhile_imp
            · cases after with
              | nil => cases separate
              | cons c after =>
                rw [List.takeWhile_cons_of_pos (show isBlank c from separate)]
                exact List.cons_ne_nil _ _
            · exact fun _ => List.mem_takeWhile_imp
        · cases opens
      · cases opens
    · cases opens
  · rintro ⟨margin, gap, rfl, narrow, some, blank, stop⟩
    have dropped : (margin ++ ("typedef".toList ++ (gap ++ ("struct".toList ++ rest)))).dropWhile
        (fun c => c = ' ' || c = '\t') = "typedef".toList ++ (gap ++ ("struct".toList ++ rest)) := by
      rw [List.dropWhile_append_of_pos narrow]
      rfl
    have separate : startsWith isBlank (gap ++ ("struct".toList ++ rest)) := by
      rw [startsWith_append some]
      exact startsWith_of_mem blank some
    have reached : dropBlanks (gap ++ ("struct".toList ++ rest)) = "struct".toList ++ rest := by
      rw [dropBlanks_append blank]
      exact dropBlanks_of_visible rfl
    rw [opening?, dropped, dropText?_eq_some_iff.mpr rfl]
    simp only [separate, if_true, reached, structWord?, dropText?_eq_some_iff.mpr rfl, stop,
      Bool.false_eq_true, if_false]

/-- What a definition opens with ends before a character that is neither blank nor of a word. -/
theorem exists_suffix_of_opening? {s t rest : List Char} {d : Char} (visible : isBlank d = false)
    (other : isWord d = false) (opens : opening? (s ++ d :: t) = some rest) :
    ∃ inside, inside <:+ s ∧ rest = inside ++ d :: t := by
  obtain ⟨margin, gap, same, narrow, -, blank, -⟩ := opening?_eq_some_iff.mp opens
  have absent : d ∉ margin ++ ("typedef".toList ++ (gap ++ "struct".toList)) := by
    intro member
    have all : ("typedef".toList ++ "struct".toList).all isWord := by decide
    have words := List.all_eq_true.mp all
    simp only [List.mem_append] at member
    rcases member with member | member | member | member
    · have space : d = ' ' ∨ d = '\t' := by simpa using narrow d member
      rcases space with rfl | rfl <;> exact absurd visible (by decide)
    · exact Bool.false_ne_true (other.symm.trans (words d (List.mem_append_left _ member)))
    · exact Bool.false_ne_true (visible.symm.trans (blank d member))
    · exact Bool.false_ne_true (other.symm.trans (words d (List.mem_append_right _ member)))
  have split : s ++ d :: t =
      (margin ++ ("typedef".toList ++ (gap ++ "struct".toList))) ++ rest := by
    simpa only [List.append_assoc] using same
  exact exists_suffix_of_append split absent

theorem opening?_of_visible {c : Char} (visible : isBlank c = false) (other : c ≠ 't')
    (s : List Char) : opening? (c :: s) = none := by
  refine Option.eq_none_iff_forall_ne_some.mpr fun rest opens => ?_
  obtain ⟨margin, gap, same, narrow, -, -, -⟩ := opening?_eq_some_iff.mp opens
  cases margin with
  | nil => exact other (List.cons.inj same).1
  | cons d margin =>
    have space : d = ' ' ∨ d = '\t' := by simpa using narrow d List.mem_cons_self
    rw [(List.cons.inj same).1] at visible
    rcases space with rfl | rfl <;> exact absurd visible (by decide)

/-- Blanks do not open what opens nothing without them. -/
theorem opening?_append_of_none {gap s : List Char} (blank : ∀ c ∈ gap, isBlank c)
    (none : opening? s = none) : opening? (gap ++ s) = Option.none := by
  induction gap with
  | nil => exact none
  | cons c gap ih =>
    obtain ⟨first, others⟩ := List.forall_mem_cons.mp blank
    by_cases margin : c = ' ' || c = '\t'
    · rw [List.cons_append, opening?_of_margin margin, ih others]
    · exact opening?_of_isBlank first margin _

/-- No definition opens at a tag before its brace, even at one that is called `typedef`. -/
theorem opening?_of_tag {tag gap : List Char} (named : isName tag) (blank : ∀ c ∈ gap, isBlank c)
    (s : List Char) : opening? (tag ++ (gap ++ '{' :: s)) = none := by
  refine Option.eq_none_iff_forall_ne_some.mpr fun rest opens => ?_
  obtain ⟨margin, gap', same, narrow, some, blank', -⟩ := opening?_eq_some_iff.mp opens
  have stop : startsWith isWord (gap ++ '{' :: s) = false := by
    cases gap with
    | nil => rfl
    | cons c gap => exact isWord_of_isBlank (blank c List.mem_cons_self)
  have stop' : startsWith isWord (gap' ++ ("struct".toList ++ rest)) = false := by
    cases gap' with
    | nil => exact absurd rfl some
    | cons c gap' => exact isWord_of_isBlank (blank' c List.mem_cons_self)
  cases margin with
  | cons c margin =>
    obtain ⟨d, tag, rfl, start, -⟩ := isName_iff.mp named
    have space : c = ' ' ∨ c = '\t' := by simpa using narrow c List.mem_cons_self
    cases (List.cons.inj same).1
    rcases space with rfl | rfl <;> exact absurd start (by decide)
  | nil =>
    have read : readName? (tag ++ (gap ++ '{' :: s)) =
        Option.some ("typedef".toList, gap' ++ ("struct".toList ++ rest)) :=
      readName?_eq_some_iff.mpr ⟨same, by decide, stop'⟩
    have read' := readName?_eq_some_iff.mpr ⟨rfl, named, stop⟩
    have reached := congrArg dropBlanks (Prod.mk.inj (Option.some.inj (read'.symm.trans read))).2
    rw [dropBlanks_append blank, dropBlanks_append blank'] at reached
    cases reached

/-- The rest of a line that has begun is passed over. -/
theorem nextOpening?_append_line {w : List Char} (line : Nat) (whole : '\n' ∉ w) (s : List Char) :
    nextOpening? line false (w ++ s) = nextOpening? line false s := by
  induction w with
  | nil => rfl
  | cons c w ih =>
    obtain ⟨other, later⟩ := not_or.mp (mt List.mem_cons.mpr whole)
    simp only [List.cons_append, nextOpening?, Bool.false_eq_true, if_false, Ne.symm other, ih later]

theorem nextOpening?_of_opening? {s rest : List Char} (opens : opening? s = some rest) (line : Nat) :
    nextOpening? line true s = some ⟨line, s, rest⟩ := by
  cases s with
  | nil => cases opens
  | cons c s => simp only [nextOpening?, if_true, opens]

/-- Where no definition opens it does not matter whether a line begins there. -/
theorem nextOpening?_of_opening?_eq_none {s : List Char} (none : opening? s = none) (line : Nat)
    (atStart : Bool) : nextOpening? line atStart s = nextOpening? line false s := by
  cases s with
  | nil => rfl
  | cons c s => simp only [nextOpening?, none, ite_self]

/-- Blanks are passed over where nothing opens behind them. -/
theorem nextOpening?_append_gap {gap s : List Char} (blank : ∀ c ∈ gap, isBlank c)
    (none : opening? s = none) (line : Nat) (atStart : Bool) :
    nextOpening? line atStart (gap ++ s) = nextOpening? (line + gap.count '\n') false s := by
  induction gap generalizing line atStart with
  | nil => exact nextOpening?_of_opening?_eq_none none line atStart
  | cons c gap ih =>
    have none' : opening? (c :: (gap ++ s)) = Option.none := opening?_append_of_none blank none
    have others := (List.forall_mem_cons.mp blank).2
    simp only [List.cons_append, nextOpening?, none', ite_self]
    split
    · rename_i newline
      rw [ih others, newline, List.count_cons_self, Nat.add_right_comm, Nat.add_assoc]
    · rename_i other
      rw [ih others, List.count_cons_of_ne other]

theorem nextOpening?_of_blank {s : List Char} (blank : ∀ c ∈ s, isBlank c) (line : Nat)
    (atStart : Bool) : nextOpening? line atStart s = none := by
  have passed := nextOpening?_append_gap blank (s := []) rfl line atStart
  rwa [List.append_nil] at passed

/-- Blanks up to a newline are passed over. What follows stands at the start of a line. -/
theorem nextOpening?_append_newline {gap : List Char} (blank : ∀ c ∈ gap, isBlank c) (line : Nat)
    (atStart : Bool) (s : List Char) :
    ∃ later, nextOpening? line atStart (gap ++ '\n' :: s) = nextOpening? later true s := by
  have none : opening? ('\n' :: s) = none := opening?_of_isBlank rfl (by decide) s
  refine ⟨line + gap.count '\n' + 1, ?_⟩
  rw [nextOpening?_append_gap blank none]
  simp only [nextOpening?, Bool.false_eq_true, if_false, if_true]

/-- Blanks and a token behind them are passed over where the token opens nothing. -/
theorem nextOpening?_append_token {gap w s : List Char} (blank : ∀ c ∈ gap, isBlank c)
    (whole : '\n' ∉ w) (none : opening? (w ++ s) = none) (line : Nat) (atStart : Bool) :
    nextOpening? line atStart (gap ++ (w ++ s)) =
      nextOpening? (line + gap.count '\n') false s := by
  rw [nextOpening?_append_gap blank none, nextOpening?_append_line _ whole]

/-- A part of a text that ends with a mark is passed over, or a definition opens in it. -/
theorem nextOpening?_append_mark {d : Char} (visible : isBlank d = false) (other : isWord d = false)
    (s t : List Char) (line : Nat) (atStart : Bool) :
    (∃ later, nextOpening? line atStart (s ++ d :: t) = nextOpening? later false t) ∨
      ∃ later start inside, inside <:+ s ∧
        nextOpening? line atStart (s ++ d :: t) = some ⟨later, start, inside ++ d :: t⟩ := by
  induction s generalizing line atStart with
  | nil =>
    have none : opening? (d :: t) = none := opening?_of_visible visible (by rintro rfl; cases other) t
    have newline : d ≠ '\n' := by rintro rfl; cases visible
    refine Or.inl ⟨line, ?_⟩
    simp only [List.nil_append, nextOpening?, none, ite_self, newline, if_false]
  | cons c s ih =>
    simp only [List.cons_append, nextOpening?]
    split
    · rename_i rest opens
      split at opens
      · obtain ⟨inside, tail, rfl⟩ := exists_suffix_of_opening? (s := c :: s) visible other opens
        exact Or.inr ⟨line, _, inside, tail, rfl⟩
      · cases opens
    · have longer {inside : List Char} (tail : inside <:+ s) : inside <:+ c :: s :=
        tail.trans (List.suffix_cons c s)
      split
      · rcases ih (line + 1) true with passed | ⟨later, start, inside, tail, found⟩
        · exact Or.inl passed
        · exact Or.inr ⟨later, start, inside, longer tail, found⟩
      · rcases ih line false with passed | ⟨later, start, inside, tail, found⟩
        · exact Or.inl passed
        · exact Or.inr ⟨later, start, inside, longer tail, found⟩

/-- A gap without comments is its blanks. -/
theorem skipGap_append_mark {a : List Char} {d : Char} (plain : Comment.uncommented a)
    (visible : isBlank d = false) (other : ¬(d = '/' || d = '*')) (s : List Char) :
    skipGap (a ++ d :: s) = dropBlanks a ++ d :: s := by
  induction a with
  | nil => exact skipGap_of_visible visible (by rintro rfl; exact other rfl) s
  | cons c a ih =>
    obtain ⟨none, rest⟩ := Comment.uncommented_cons_iff.mp plain
    rw [List.cons_append, skipGap_cons (Comment.begins_append none other s), ih rest, dropBlanks,
      dropBlanks, List.dropWhile_cons]
    split <;> rfl

theorem readHead_append_mark {a : List Char} {d : Char} (plain : Comment.uncommented a)
    (visible : isBlank d = false) (foreign : isWord d = false) (other : ¬(d = '/' || d = '*'))
    (s : List Char) : ∃ tag inside, inside <:+ a ∧ readHead (a ++ d :: s) = (tag, inside ++ d :: s) := by
  have tail : dropBlanks a <:+ a := List.dropWhile_suffix _
  have gap := skipGap_append_mark plain visible other s
  cases read : readName? (dropBlanks a ++ d :: s) with
  | none => exact ⟨none, _, tail, by simp only [readHead, gap, read]⟩
  | some named =>
    obtain ⟨tag, rest⟩ := named
    obtain ⟨same, named, -⟩ := readName?_eq_some_iff.mp read
    obtain ⟨inside, tail', rfl⟩ := exists_suffix_of_append same (not_mem_of_isName named foreign)
    have plain' := Comment.uncommented_of_suffix (tail'.trans tail) plain
    refine ⟨some tag, dropBlanks inside, ((List.dropWhile_suffix _).trans tail').trans tail, ?_⟩
    simp only [readHead, gap, read, skipGap_append_mark plain' visible other s]

theorem declarationEnd?_append {a : List Char} (plain : Comment.uncommented a) (opened : '{' ∉ a)
    (closed : ';' ∉ a) (s : List Char) : declarationEnd? (a ++ ';' :: s) = some (';', s) := by
  induction a with
  | nil => exact declarationEnd?_cons (Comment.begins_of_ne (by decide) s)
  | cons c a ih =>
    obtain ⟨none, rest⟩ := Comment.uncommented_cons_iff.mp plain
    obtain ⟨brace, opened⟩ := not_or.mp (mt List.mem_cons.mpr opened)
    obtain ⟨mark, closed⟩ := not_or.mp (mt List.mem_cons.mpr closed)
    rw [List.cons_append, declarationEnd?_cons (Comment.begins_append none (by decide) s),
      if_neg (by simp [Ne.symm brace, Ne.symm mark])]
    exact ih rest opened closed

/-- A declaration that ends before any brace is read up to its end. -/
theorem readDefinition_of_declaration {a : List Char} (plain : Comment.uncommented a)
    (opened : '{' ∉ a) (closed : ';' ∉ a) (line : Nat) (s : List Char) :
    readDefinition line (a ++ ';' :: s) = .ok (.forward line, s) := by
  obtain ⟨tag, inside, tail, head⟩ :=
    readHead_append_mark plain (by decide : isBlank ';' = false) rfl (by decide) s
  have ends := declarationEnd?_append (Comment.uncommented_of_suffix tail plain)
    (fun member => opened (tail.subset member)) (fun member => closed (tail.subset member)) s
  have other : startsWith (· = '{') (inside ++ ';' :: s) = false := by
    cases inside with
    | nil => rfl
    | cons c inside =>
      refine decide_eq_false fun brace => opened ?_
      exact tail.subset (brace ▸ List.mem_cons_self)
  exact readDefinition_of_semicolon head (by simp) other ends line

theorem findingsFrom_of_none {line : Nat} {atStart : Bool} {s : List Char}
    (none : nextOpening? line atStart s = none) : findingsFrom line atStart s = [] := by
  rw [findingsFrom]
  split
  · rfl
  · rename_i found
    cases none.symm.trans found

theorem findingsFrom_of_opening {line : Nat} {atStart : Bool} {s rest : List Char}
    {opening : Opening} {finding : Finding} (found : nextOpening? line atStart s = some opening)
    (read : readDefinition opening.line opening.rest = .ok (finding, rest)) :
    findingsFrom line atStart s = finding ::
      findingsFrom (opening.line + newlinesBefore rest opening.start) false rest := by
  rw [findingsFrom]
  split
  · rename_i none
    cases found.symm.trans none
  · rename_i opening' found'
    cases found.symm.trans found'
    split
    · rename_i refused
      cases read.symm.trans refused
    · rename_i finding' rest' read'
      cases read.symm.trans read'
      rfl

theorem findingsFrom_of_error {line : Nat} {atStart : Bool} {s : List Char} {opening : Opening}
    {block : MalformedBlock} (found : nextOpening? line atStart s = some opening)
    (refused : readDefinition opening.line opening.rest = .error block) :
    findingsFrom line atStart s = [.malformed block] := by
  rw [findingsFrom]
  split
  · rename_i none
    cases found.symm.trans none
  · rename_i opening' found'
    cases found.symm.trans found'
    split
    · rename_i refused'
      cases refused.symm.trans refused'
      rfl
    · rename_i read
      cases refused.symm.trans read

/-- What is found depends on nothing but where the next definition opens. -/
theorem findingsFrom_congr {line line' : Nat} {atStart atStart' : Bool} {s s' : List Char}
    (same : nextOpening? line atStart s = nextOpening? line' atStart' s') :
    findingsFrom line atStart s = findingsFrom line' atStart' s' := by
  cases found : nextOpening? line' atStart' s' with
  | none => rw [findingsFrom_of_none (same.trans found), findingsFrom_of_none found]
  | some opening =>
    cases read : readDefinition opening.line opening.rest with
    | ok result => rw [findingsFrom_of_opening (same.trans found) read, findingsFrom_of_opening found read]
    | error block => rw [findingsFrom_of_error (same.trans found) read, findingsFrom_of_error found read]

end HeaderTypes.Header
