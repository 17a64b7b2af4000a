import HeaderTypes.Proofs.Comment.Uncommented

namespace HeaderTypes.Comment
open Text

/-- A piece of a text: a character outside comments, or a whole comment. -/
inductive Piece
  | code (c : Char)
  | comment (text : List Char)
  deriving DecidableEq

namespace Piece

def text : Piece → List Char
  | code c => [c]
  | comment text => text

/-- A piece without its comment: of a comment there remain a space and its newlines. -/
def blank : Piece → List Char
  | code c => [c]
  | comment text => ' ' :: text.filter (· = '\n')

end Piece

/-- The text that is made of some pieces. -/
def texts (ps : List Piece) : List Char := ps.flatMap Piece.text

/-- The text that is made of some pieces, its comments blanked out. -/
def blanks (ps : List Piece) : List Char := ps.flatMap Piece.blank

/-- What stands before the first `*/` of a text. -/
def beforeClose : List Char → List Char
  | [] => []
  | '*' :: '/' :: _ => []
  | c :: s => c :: beforeClose s

/-- The pieces of a text, read from left to right: `//` begins a comment up to
the end of the line, `/*` one up to the next `*/`, and there has to be one. -/
def pieces? : List Char → Option (List Piece)
  | [] => some []
  | '/' :: '/' :: s =>
    have _ := afterLine_length_le s
    (pieces? (afterLine s)).map (.comment ('/' :: '/' :: s.takeWhile (· ≠ '\n')) :: ·)
  | '/' :: '*' :: s =>
    match closed : afterClose? s with
    | some rest =>
      have _ := afterClose?_length_lt closed
      (pieces? rest).map (.comment ('/' :: '*' :: (beforeClose s ++ ['*', '/'])) :: ·)
    | none => none
  | c :: s => (pieces? s).map (.code c :: ·)
termination_by s => s.length

/-- The pieces are those that are read off their text. -/
inductive Lexed : List Piece → Prop
  | nil : Lexed []
  | code {c ps} : begins c (texts ps) = false → Lexed ps → Lexed (.code c :: ps)
  | line {inside ps} : '\n' ∉ inside → startsWith (· ≠ '\n') (texts ps) = false → Lexed ps →
      Lexed (.comment ('/' :: '/' :: inside) :: ps)
  | block {inside ps} : (∀ t, afterClose? (inside ++ '*' :: '/' :: t) = some t) → Lexed ps →
      Lexed (.comment ('/' :: '*' :: (inside ++ ['*', '/'])) :: ps)

@[simp] theorem texts_nil : texts [] = [] := rfl

@[simp] theorem blanks_nil : blanks [] = [] := rfl

@[simp] theorem texts_code (c : Char) (ps : List Piece) : texts (.code c :: ps) = c :: texts ps := rfl

@[simp] theorem blanks_code (c : Char) (ps : List Piece) : blanks (.code c :: ps) = c :: blanks ps :=
  rfl

theorem texts_comment (w : List Char) (ps : List Piece) : texts (.comment w :: ps) = w ++ texts ps :=
  rfl

theorem blanks_comment (w : List Char) (ps : List Piece) :
    blanks (.comment w :: ps) = ' ' :: w.filter (· = '\n') ++ blanks ps := rfl

/-- What remains of a comment is blank. -/
theorem isBlank_of_mem_blank {w : List Char} : ∀ c ∈ ' ' :: w.filter (· = '\n'), isBlank c := by
  refine List.forall_mem_cons.mpr ⟨rfl, fun c member => ?_⟩
  rw [of_decide_eq_true (List.mem_filter.mp member).2]
  rfl

theorem blanks_map_code (w : List Char) (ps : List Piece) :
    blanks (w.map .code ++ ps) = w ++ blanks ps := by
  induction w with
  | nil => rfl
  | cons c w ih => exact congrArg (c :: ·) ih

theorem afterClose?_append {s rest : List Char} (closed : afterClose? s = some rest) :
    s = beforeClose s ++ '*' :: '/' :: rest ∧
      ∀ t, afterClose? (beforeClose s ++ '*' :: '/' :: t) = some t := by
  fun_induction afterClose? s with
  | case1 => cases closed
  | case2 s =>
    cases closed
    exact ⟨rfl, fun t => rfl⟩
  | case3 c s other ih =>
    obtain ⟨same, closes⟩ := ih closed
    have kept : beforeClose (c :: s) = c :: beforeClose s := by
      rw [beforeClose]
      exact other
    rw [kept]
    refine ⟨congrArg (c :: ·) same, fun t => ?_⟩
    rw [List.cons_append, afterClose?]
    · exact closes t
    · rintro u rfl next
      rw [same] at other
      cases before : beforeClose s with
      | nil => rw [before] at next; cases next
      | cons d inside =>
        rw [before] at next other
        cases (List.cons.inj next).1
        exact other _ rfl rfl

theorem lexed_of_pieces? {s : List Char} {ps : List Piece} (read : pieces? s = some ps) :
    texts ps = s ∧ Lexed ps := by
  fun_induction pieces? s generalizing ps with
  | case1 =>
    cases read
    exact ⟨rfl, .nil⟩
  | case2 s _ ih =>
    obtain ⟨qs, inner, rfl⟩ := Option.map_eq_some_iff.mp read
    obtain ⟨same, lexed⟩ := ih inner
    refine ⟨?_, .line ?_ ?_ lexed⟩
    · rw [texts_comment, same]
      exact congrArg ('/' :: '/' :: ·) (List.takeWhile_append_dropWhile)
    · intro member
      exact absurd (List.mem_takeWhile_imp member) (by decide)
    · rw [same]
      exact startsWith_dropWhile (· ≠ '\n') s
  | case3 s rest closed _ ih =>
    obtain ⟨qs, inner, rfl⟩ := Option.map_eq_some_iff.mp read
    obtain ⟨same, lexed⟩ := ih inner
    obtain ⟨split, closes⟩ := afterClose?_append closed
    have whole : beforeClose s ++ ['*', '/'] ++ rest = s := by
      rw [List.append_assoc]
      exact split.symm
    refine ⟨?_, .block closes lexed⟩
    rw [texts_comment, same]
    exact congrArg ('/' :: '*' :: ·) whole
  | case4 => cases read
  | case5 c s line block ih =>
    obtain ⟨qs, inner, rfl⟩ := Option.map_eq_some_iff.mp read
    obtain ⟨rfl, lexed⟩ := ih inner
    exact ⟨rfl, .code (begins_eq_false_iff.mpr ⟨line, block⟩) lexed⟩

theorem beforeClose_append {inside t : List Char}
    (closes : afterClose? (inside ++ '*' :: '/' :: t) = some t) :
    beforeClose (inside ++ '*' :: '/' :: t) = inside := by
  obtain ⟨split, -⟩ := afterClose?_append closes
  exact (List.append_cancel_right split).symm

theorem afterLine_append {inside s : List Char} (whole : '\n' ∉ inside)
    (stop : startsWith (· ≠ '\n') s = false) : afterLine (inside ++ s) = s :=
  dropWhile_append_stop (fun _ member => decide_eq_true fun newline => whole (newline ▸ member)) stop

/-- A text has the pieces that it is made of, and no others. -/
theorem pieces?_eq_some_iff {s : List Char} {ps : List Piece} :
    pieces? s = some ps ↔ texts ps = s ∧ Lexed ps := by
  refine ⟨lexed_of_pieces?, ?_⟩
  rintro ⟨rfl, lexed⟩
  induction lexed with
  | nil => rw [texts_nil, pieces?]
  | @code c ps none rest ih =>
    rw [texts_code, pieces?, ih]
    · rfl
    · exact not_line_of_begins none
    · exact not_block_of_begins none
  | @line inside ps whole stop rest ih =>
    have taken : (inside ++ texts ps).takeWhile (· ≠ '\n') = inside :=
      takeWhile_append_stop (fun _ member => decide_eq_true fun newline => whole (newline ▸ member)) stop
    rw [texts_comment, List.cons_append, List.cons_append, pieces?, afterLine_append whole stop, ih, taken]
    rfl
  | @block inside ps closes rest ih =>
    have split : inside ++ ['*', '/'] ++ texts ps = inside ++ '*' :: '/' :: texts ps := by
      rw [List.append_assoc]
      rfl
    rw [texts_comment, List.cons_append, List.cons_append, split, pieces?]
    split
    · rename_i found
      cases (closes _).symm.trans found
      rw [ih, beforeClose_append (closes _)]
      rfl
    · rename_i unclosed
      cases (closes _).symm.trans unclosed

namespace Lexed

theorem tail {p : Piece} {ps : List Piece} (lexed : Lexed (p :: ps)) : Lexed ps := by
  cases lexed with
  | code _ rest => exact rest
  | line _ _ rest => exact rest
  | block _ rest => exact rest

theorem of_suffix {qs ps : List Piece} (later : qs <:+ ps) (lexed : Lexed ps) : Lexed qs := by
  obtain ⟨before, rfl⟩ := later
  induction before with
  | nil => exact lexed
  | cons p before ih => exact ih lexed.tail

/-- A comment begins with a slash and does not end with a newline. -/
theorem comment {w : List Char} {ps : List Piece} (lexed : Lexed (.comment w :: ps)) :
    (∃ v, w = '/' :: v) ∧ w.getLast? ≠ some '\n' := by
  cases lexed with
  | @line inside _ whole _ _ =>
    refine ⟨⟨_, rfl⟩, fun last => ?_⟩
    have member := List.mem_of_getLast? last
    simp only [List.mem_cons, Char.reduceEq, false_or] at member
    exact whole member
  | @block inside _ _ _ =>
    have last : ('/' :: '*' :: (inside ++ ['*', '/'])).getLast? = some '/' := by
      rw [show '/' :: '*' :: (inside ++ ['*', '/']) = ('/' :: '*' :: (inside ++ ['*'])) ++ ['/'] by simp,
        List.getLast?_concat]
    exact ⟨⟨_, rfl⟩, by rw [last]; decide⟩

/-- A text without slashes at the head is code. -/
theorem exists_code {w rest : List Char} (absent : '/' ∉ w) {ps : List Piece} (lexed : Lexed ps)
    (same : texts ps = w ++ rest) : ∃ qs, ps = w.map .code ++ qs ∧ texts qs = rest := by
  induction w generalizing ps with
  | nil => exact ⟨ps, rfl, same⟩
  | cons c w ih =>
    obtain ⟨other, later⟩ := not_or.mp (mt List.mem_cons.mpr absent)
    cases ps with
    | nil => cases same
    | cons p ps =>
      cases p with
      | code d =>
        obtain ⟨rfl, rest⟩ := List.cons.inj same
        obtain ⟨qs, rfl, left⟩ := ih later lexed.tail rest
        exact ⟨qs, rfl, left⟩
      | comment v =>
        obtain ⟨⟨u, rfl⟩, -⟩ := lexed.comment
        exact absurd (List.cons.inj same).1 other

end Lexed

theorem startsWith_of_blanks {kind : Char → Bool} (space : kind ' ' = false) {ps : List Piece}
    (starts : startsWith kind (blanks ps)) : startsWith kind (texts ps) := by
  cases ps with
  | nil => cases starts
  | cons p ps =>
    cases p with
    | code c => exact starts
    | comment w => exact absurd (space.symm.trans starts) Bool.false_ne_true

/-- Blanking a text out leaves the kind of its first character, if slashes and
spaces are of no such kind. -/
theorem startsWith_blanks {kind : Char → Bool} (space : kind ' ' = false) (slash : kind '/' = false)
    {ps : List Piece} (lexed : Lexed ps) : startsWith kind (blanks ps) = startsWith kind (texts ps) := by
  cases ps with
  | nil => rfl
  | cons p ps =>
    cases p with
    | code c => rfl
    | comment w =>
      obtain ⟨⟨v, rfl⟩, -⟩ := lexed.comment
      exact space.trans slash.symm

/-- No comment begins in a text that is blanked out. -/
theorem uncommented_blanks {ps : List Piece} (lexed : Lexed ps) : uncommented (blanks ps) := by
  induction ps with
  | nil => rfl
  | cons p ps ih =>
    have rest := ih lexed.tail
    cases p with
    | code c =>
      cases lexed with
      | code none _ =>
        refine uncommented_cons_iff.mpr ⟨Bool.eq_false_iff.mpr fun begun => ?_, rest⟩
        obtain ⟨slash, starts⟩ := Bool.and_eq_true_iff.mp begun
        have starts' := startsWith_of_blanks rfl starts
        rw [begins, slash, starts'] at none
        cases none
    | comment w =>
      refine uncommented_append_of_not_mem (fun member => ?_) rest
      exact absurd (isBlank_of_mem_blank _ member) (by decide)

theorem texts_eq_nil {ps : List Piece} (lexed : Lexed ps) (empty : texts ps = []) : ps = [] := by
  cases ps with
  | nil => rfl
  | cons p ps =>
    cases p with
    | code c => cases empty
    | comment w =>
      obtain ⟨⟨v, rfl⟩, -⟩ := lexed.comment
      cases empty

theorem blanks_ne_nil (p : Piece) (ps : List Piece) : blanks (p :: ps) ≠ [] := by
  cases p with
  | code c => exact List.cons_ne_nil _ _
  | comment w => exact List.cons_ne_nil _ _

theorem count_blanks (ps : List Piece) : (blanks ps).count '\n' = (texts ps).count '\n' := by
  induction ps with
  | nil => rfl
  | cons p ps ih =>
    cases p with
    | code c => rw [blanks_code, texts_code, List.count_cons, List.count_cons, ih]
    | comment w =>
      have kept : (w.filter (· = '\n')).count '\n' = w.count '\n' := List.count_filter (by decide)
      rw [blanks_comment, texts_comment, List.count_append, List.count_cons_of_ne (by decide), kept,
        List.count_append, ih]

end HeaderTypes.Comment
