import HeaderTypes.Proofs.Comment.Pieces
import HeaderTypes.Proofs.Header.Search

namespace HeaderTypes.Header
open Text Comment

/-- No closing marker, of a given name or of any, begins in a comment. -/
def Silent (name : Option (List Char)) (rest : List Char) : List Char → Prop
  | [] => True
  | c :: w => marker? name (c :: w ++ rest) = none ∧ Silent name rest w

/-- No line of a comment opens a definition. -/
def Quiet (rest : List Char) : List Char → Prop
  | [] => True
  | c :: w => (c = '\n' → opening? (w ++ rest) = none) ∧ Quiet rest w

/-- Up to the first closing marker of a text no comment holds or breaks one. -/
def Unmarked (name : Option (List Char)) : List Piece → Prop
  | [] => True
  | .code c :: ps =>
    (marker? name (c :: texts ps)).isSome ∨
      marker? name (c :: blanks ps) = none ∧ Unmarked name ps
  | .comment w :: ps => Silent name (texts ps) w ∧ Unmarked name ps

/-- The body that stands behind `typedef struct` and a head, in its pieces, and
the name that its closing marker has to give. -/
def body? (s : List Char) : Option (Option (List Char) × List Piece) :=
  match readHead s with
  | (tag, '{' :: inside) => (pieces? inside).map ((givenName tag).map String.toList, ·)
  | _ => none

/-- No comment holds or breaks the closing marker of what stands behind `typedef struct`. -/
def Unmasked (s : List Char) : Prop := ∀ body ∈ body? s, Unmarked body.1 body.2

/-- The comments of a text are out of the way of its definitions: none of them
holds or breaks what a definition opens with at the start of a line, or the
closing marker of one. The text stands at the start of a line or not. -/
def Clear : (atStart : Bool) → List Piece → Prop
  | _, [] => True
  | atStart, .code c :: ps =>
    (atStart → (opening? (c :: blanks ps)).isSome → (opening? (c :: texts ps)).isSome) ∧
      (atStart → ∀ rest ∈ opening? (c :: texts ps), Unmasked rest) ∧ Clear (c = '\n') ps
  | atStart, .comment w :: ps =>
    Quiet (texts ps) w ∧ (atStart ∨ '\n' ∈ w → opening? (blanks ps) = none) ∧
      (ps = [] → w.getLast? ≠ some ';') ∧ Clear false ps

instance decidableSilent (name : Option (List Char)) (rest : List Char) :
    (w : List Char) → Decidable (Silent name rest w)
  | [] => isTrue trivial
  | c :: w =>
    have := decidableSilent name rest w
    inferInstanceAs (Decidable (marker? name (c :: w ++ rest) = none ∧ Silent name rest w))

instance decidableQuiet (rest : List Char) : (w : List Char) → Decidable (Quiet rest w)
  | [] => isTrue trivial
  | c :: w =>
    have := decidableQuiet rest w
    inferInstanceAs (Decidable ((c = '\n' → opening? (w ++ rest) = none) ∧ Quiet rest w))

instance decidableUnmarked (name : Option (List Char)) :
    (ps : List Piece) → Decidable (Unmarked name ps)
  | [] => isTrue trivial
  | .code c :: ps =>
    have := decidableUnmarked name ps
    inferInstanceAs (Decidable ((marker? name (c :: texts ps)).isSome ∨
      marker? name (c :: blanks ps) = none ∧ Unmarked name ps))
  | .comment w :: ps =>
    have := decidableUnmarked name ps
    inferInstanceAs (Decidable (Silent name (texts ps) w ∧ Unmarked name ps))

instance (s : List Char) : Decidable (Unmasked s) :=
  inferInstanceAs (Decidable (∀ body ∈ body? s, Unmarked body.1 body.2))

instance decidableClear : (atStart : Bool) → (ps : List Piece) → Decidable (Clear atStart ps)
  | _, [] => isTrue trivial
  | atStart, .code c :: ps =>
    have := decidableClear (c = '\n') ps
    inferInstanceAs (Decidable
      ((atStart → (opening? (c :: blanks ps)).isSome → (opening? (c :: texts ps)).isSome) ∧
        (atStart → ∀ rest ∈ opening? (c :: texts ps), Unmasked rest) ∧ Clear (c = '\n') ps))
  | atStart, .comment w :: ps =>
    have := decidableClear false ps
    inferInstanceAs (Decidable
      (Quiet (texts ps) w ∧ (atStart ∨ '\n' ∈ w → opening? (blanks ps) = none) ∧
        (ps = [] → w.getLast? ≠ some ';') ∧ Clear false ps))

/-- The rest of a text behind some of its pieces, with and without comments. -/
def Later (ps : List Piece) (s s' : List Char) : Prop :=
  ∃ qs, qs <:+ ps ∧ s = texts qs ∧ s' = blanks qs

theorem Later.mono {ps qs : List Piece} (tail : qs <:+ ps) {s s' : List Char} (later : Later qs s s') :
    Later ps s s' := by
  obtain ⟨rs, tail', same⟩ := later
  exact ⟨rs, tail'.trans tail, same⟩

theorem Later.longer {p : Piece} {ps : List Piece} {s s' : List Char} (later : Later ps s s') :
    Later (p :: ps) s s' :=
  later.mono (List.suffix_cons p ps)

namespace Clear

theorem weaken {atStart : Bool} {ps : List Piece} (clear : Clear atStart ps) : Clear false ps := by
  cases ps with
  | nil => trivial
  | cons p ps =>
    cases p with
    | code c => exact ⟨nofun, nofun, clear.2.2⟩
    | comment w => exact ⟨clear.1, fun place => clear.2.1 (place.imp_left nofun), clear.2.2⟩

theorem of_suffix {atStart : Bool} {qs ps : List Piece} (later : qs <:+ ps)
    (clear : Clear atStart ps) : Clear false qs := by
  obtain ⟨before, rfl⟩ := later
  induction before generalizing atStart with
  | nil => exact clear.weaken
  | cons p before ih =>
    cases p with
    | code c => exact ih clear.2.2
    | comment w => exact ih clear.2.2.2

end Clear

/-- What a text opens with, it opens with when its comments are blanked out. -/
theorem opening?_blanks {ps : List Piece} (lexed : Lexed ps) {rest : List Char}
    (opens : opening? (texts ps) = some rest) :
    ∃ rest', opening? (blanks ps) = some rest' ∧ Later ps rest rest' := by
  obtain ⟨margin, gap, same, narrow, filled, blank, stop⟩ := opening?_eq_some_iff.mp opens
  have absent : '/' ∉ margin ++ ("typedef".toList ++ (gap ++ "struct".toList)) := by
    simp only [List.mem_append, not_or]
    exact ⟨fun member => absurd (narrow _ member) (by decide), by decide,
      fun member => absurd (blank _ member) (by decide), by decide⟩
  have split : texts ps = margin ++ ("typedef".toList ++ (gap ++ "struct".toList)) ++ rest := by
    simpa only [List.append_assoc] using same
  obtain ⟨qs, rfl, left⟩ := lexed.exists_code absent split
  have lexed' := lexed.of_suffix (List.suffix_append _ _)
  refine ⟨blanks qs, opening?_eq_some_iff.mpr ⟨margin, gap, ?_, narrow, filled, blank, ?_⟩, qs,
    List.suffix_append _ _, left.symm, rfl⟩
  · rw [blanks_map_code]
    simp only [List.append_assoc]
  · rwa [startsWith_blanks rfl rfl lexed', left]

theorem marker?_blanks {name : Option (List Char)} (named : ∀ n ∈ name, isName n) {ps : List Piece}
    (lexed : Lexed ps) {found rest : List Char} (marks : marker? name (texts ps) = some (found, rest)) :
    ∃ rest', marker? name (blanks ps) = some (found, rest') ∧ Later ps rest rest' := by
  obtain ⟨gap, gap', same, blank, blank', isNamed, given⟩ := (marker?_eq_some_iff named).mp marks
  have absent : '/' ∉ '}' :: (gap ++ (found ++ (gap' ++ [';']))) := by
    simp only [List.mem_cons, List.mem_append, not_or, List.not_mem_nil, not_false_eq_true, and_true]
    exact ⟨by decide, fun member => absurd (blank _ member) (by decide),
      not_mem_of_isName isNamed rfl, fun member => absurd (blank' _ member) (by decide), by decide⟩
  have split : texts ps = '}' :: (gap ++ (found ++ (gap' ++ [';']))) ++ rest := by
    simpa only [List.append_assoc, List.cons_append, List.nil_append] using same
  obtain ⟨qs, rfl, left⟩ := lexed.exists_code absent split
  refine ⟨blanks qs, (marker?_eq_some_iff named).mpr
    ⟨gap, gap', ?_, blank, blank', isNamed, given⟩, qs, List.suffix_append _ _, left.symm, rfl⟩
  rw [blanks_map_code]
  simp only [List.append_assoc, List.cons_append, List.nil_append]

/-- A comment in which no definition opens is passed over. -/
theorem nextOpening?_append_quiet {w rest : List Char} (quiet : Quiet rest w) (filled : w ≠ [])
    (ends : w.getLast? ≠ some '\n') (line : Nat) (atStart : Bool)
    (idle : atStart → opening? (w ++ rest) = none) :
    nextOpening? line atStart (w ++ rest) = nextOpening? (line + w.count '\n') false rest := by
  induction w generalizing line atStart with
  | nil => exact absurd rfl filled
  | cons c w ih =>
    obtain ⟨next, quiet⟩ := quiet
    have first : (if atStart then opening? (c :: (w ++ rest)) else none) = none := by
      split
      · exact idle ‹_›
      · rfl
    simp only [List.cons_append, nextOpening?, first]
    cases w with
    | nil =>
      have other : c ≠ '\n' := by simpa using ends
      simp only [List.nil_append, if_neg other, List.count_cons_of_ne other, List.count_nil,
        Nat.add_zero]
    | cons d w =>
      have ends' : (d :: w).getLast? ≠ some '\n' := by simpa using ends
      by_cases newline : c = '\n'
      · have step := ih quiet (List.cons_ne_nil _ _) ends' (line + 1) true fun _ => next newline
        rw [if_pos newline, step, newline, List.count_cons_self, Nat.add_right_comm, Nat.add_assoc]
      · have step := ih quiet (List.cons_ne_nil _ _) ends' line false
          fun begun => absurd begun Bool.false_ne_true
        rw [if_neg newline, step, List.count_cons_of_ne newline]

/-- Blanked out, a comment is passed over if nothing opens behind it. -/
theorem nextOpening?_append_blanked {w s : List Char} {atStart : Bool}
    (idle : atStart ∨ '\n' ∈ w → opening? s = none) (line : Nat) :
    nextOpening? line atStart (' ' :: w.filter (· = '\n') ++ s) =
      nextOpening? (line + w.count '\n') false s := by
  have kept : (' ' :: w.filter (· = '\n')).count '\n' = w.count '\n' := by
    rw [List.count_cons_of_ne (by decide), List.count_filter (by decide)]
  by_cases place : atStart ∨ '\n' ∈ w
  · rw [nextOpening?_append_gap isBlank_of_mem_blank (idle place), kept]
  · obtain ⟨begun, whole⟩ := not_or.mp place
    have empty : w.filter (· = '\n') = [] := by
      refine List.filter_eq_nil_iff.mpr fun c member newline => whole ?_
      rwa [← of_decide_eq_true newline]
    rw [Bool.eq_false_iff.mpr begun, empty, List.count_eq_zero_of_not_mem whole]
    exact nextOpening?_append_line line (by decide) s

/-- Definitions that open on the same line, with the same text behind it but for comments. -/
structure OpensAlike (ps : List Piece) (opening opening' : Opening) : Prop where
  line : opening.line = opening'.line
  start : Later ps opening.start opening'.start
  rest : Later ps opening.rest opening'.rest
  unmasked : Unmasked opening.rest

/-- The next definition opens at the same place with and without comments. -/
theorem nextOpening?_blanks {ps : List Piece} (lexed : Lexed ps) {atStart : Bool}
    (clear : Clear atStart ps) (line : Nat) :
    Option.Rel (OpensAlike ps) (nextOpening? line atStart (texts ps))
      (nextOpening? line atStart (blanks ps)) := by
  induction ps generalizing line atStart with
  | nil => exact .none
  | cons p ps ih =>
    have longer {a b : Option Opening} (alike : Option.Rel (OpensAlike ps) a b) :
        Option.Rel (OpensAlike (p :: ps)) a b := by
      cases alike with
      | none => exact .none
      | some alike => exact .some ⟨alike.line, alike.start.longer, alike.rest.longer, alike.unmasked⟩
    cases p with
    | code c =>
      obtain ⟨opens, masks, clear⟩ := clear
      by_cases found : atStart ∧ (opening? (texts (.code c :: ps))).isSome
      · obtain ⟨rfl, opened⟩ := found
        obtain ⟨rest, opened⟩ := Option.isSome_iff_exists.mp opened
        obtain ⟨rest', opened', later⟩ := opening?_blanks lexed opened
        rw [nextOpening?_of_opening? opened, nextOpening?_of_opening? opened']
        exact .some ⟨rfl, ⟨_, List.suffix_refl _, rfl, rfl⟩, later, masks rfl rest opened⟩
      · have idle (s : List Char)
            (same : atStart → (opening? s).isSome → (opening? (texts (.code c :: ps))).isSome) :
            (if atStart then opening? s else none) = none := by
          split
          · rename_i begun
            exact Option.not_isSome_iff_eq_none.mp fun opened => found ⟨begun, same begun opened⟩
          · rfl
        have step (s : List Char) :
            (if c = '\n' then nextOpening? (line + 1) true s else nextOpening? line false s) =
              nextOpening? (if c = '\n' then line + 1 else line) (c = '\n') s := by
          split <;> simp [*]
        simp only [texts_code, blanks_code, nextOpening?, idle (c :: texts ps) fun _ => id,
          idle (c :: blanks ps) opens, step]
        exact longer (ih lexed.tail clear _)
    | comment w =>
      obtain ⟨quiet, place, -, clear⟩ := clear
      obtain ⟨⟨v, rfl⟩, ends⟩ := lexed.comment
      have idle : opening? ('/' :: v ++ texts ps) = none := opening?_of_visible rfl (by decide) _
      have passed := nextOpening?_append_quiet quiet (List.cons_ne_nil _ _) ends line atStart
        fun _ => idle
      rw [texts_comment, blanks_comment, passed, nextOpening?_append_blanked place line]
      exact longer (ih lexed.tail clear _)

theorem Silent.marker?_eq_none {name : Option (List Char)} {rest w : List Char}
    (silent : Silent name rest w) {t : List Char}
    (filled : t ≠ []) (tail : t <:+ w) : marker? name (t ++ rest) = none := by
  induction w with
  | nil => exact absurd (List.suffix_nil.mp tail) filled
  | cons c w ih =>
    rcases List.suffix_cons_iff.mp tail with rfl | tail
    · exact silent.1
    · exact ih silent.2 tail

/-- What holds no marker is kept before the next one. -/
theorem splitAtMarker?_append_of_none {name : Option (List Char)} {w s : List Char}
    (unmarked : ∀ t, t ≠ [] → t <:+ w → marker? name (t ++ s) = none) :
    splitAtMarker? name (w ++ s) =
      (splitAtMarker? name s).map fun found => (w ++ found.1, found.2) := by
  induction w with
  | nil => simp
  | cons c w ih =>
    have first := unmarked (c :: w) (List.cons_ne_nil _ _) (List.suffix_refl _)
    have later := ih fun t filled tail => unmarked t filled (tail.trans (List.suffix_cons c w))
    rw [List.cons_append] at first ⊢
    rw [splitAtMarker?, first, later]
    exact Option.map_map ..

/-- Markers of the same name, with the same text behind them but for comments. -/
def MarksAlike (ps : List Piece) (split split' : List Char × List Char × List Char) : Prop :=
  split.2.1 = split'.2.1 ∧ Later ps split.2.2 split'.2.2

/-- The next marker stands at the same place with and without comments. -/
theorem splitAtMarker?_blanks {name : Option (List Char)} (named : ∀ n ∈ name, isName n)
    {ps : List Piece} (lexed : Lexed ps) (unmarked : Unmarked name ps) :
    Option.Rel (MarksAlike ps) (splitAtMarker? name (texts ps)) (splitAtMarker? name (blanks ps)) := by
  induction ps with
  | nil => exact .none
  | cons p ps ih =>
    have longer {a b : Option (List Char × List Char × List Char)} {w w' : List Char}
        (alike : Option.Rel (MarksAlike ps) a b) :
        Option.Rel (MarksAlike (p :: ps)) (a.map fun found => (w ++ found.1, found.2))
          (b.map fun found => (w' ++ found.1, found.2)) := by
      cases alike with
      | none => exact .none
      | some alike => exact .some ⟨alike.1, alike.2.longer⟩
    cases p with
    | code c =>
      cases marks : marker? name (texts (.code c :: ps)) with
      | some both =>
        obtain ⟨found, rest⟩ := both
        obtain ⟨rest', marks', later⟩ := marker?_blanks named lexed marks
        rw [texts_code] at marks ⊢
        rw [blanks_code] at marks' ⊢
        rw [splitAtMarker?, splitAtMarker?, marks, marks']
        exact .some ⟨rfl, later⟩
      | none =>
        rw [texts_code] at marks ⊢
        rw [Unmarked, marks] at unmarked
        obtain ⟨marks', unmarked⟩ := unmarked.resolve_left Bool.false_ne_true
        rw [blanks_code, splitAtMarker?, splitAtMarker?, marks, marks']
        exact @longer _ _ [c] [c] (ih lexed.tail unmarked)
    | comment w =>
      obtain ⟨silent, unmarked⟩ := unmarked
      have passed := splitAtMarker?_append_of_none fun t filled tail =>
        silent.marker?_eq_none (t := t) filled tail
      have passed' (t : List Char) (filled : t ≠ []) (tail : t <:+ ' ' :: w.filter (· = '\n')) :
          marker? name (t ++ blanks ps) = none := by
        cases t with
        | nil => exact absurd rfl filled
        | cons c t =>
          have blank := isBlank_of_mem_blank c (tail.subset List.mem_cons_self)
          rw [List.cons_append, marker?]
          rintro u same
          rw [(List.cons.inj same).1] at blank
          cases blank
      rw [texts_comment, blanks_comment, passed, splitAtMarker?_append_of_none passed']
      exact longer (ih lexed.tail unmarked)

end HeaderTypes.Header
