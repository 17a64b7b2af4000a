import HeaderTypes.Proofs.Comment.Pieces

namespace HeaderTypes.Comment
open Text

/-- What a piece leaves behind when comments are taken out of a text: of one
between `/*` and `*/` there remains a space, of one behind `//` nothing. -/
def Piece.kept : Piece → List Char
  | code c => [c]
  | comment ('/' :: '*' :: _) => [' ']
  | comment _ => []

def kept (ps : List Piece) : List Char := ps.flatMap Piece.kept

/-- The pieces of a text whose comments need not all be closed: a `/*` without
a later `*/` is two characters like any others. -/
def pieces : List Char → List Piece
  | [] => []
  | '/' :: '/' :: s =>
    have _ := afterLine_length_le s
    .comment ('/' :: '/' :: s.takeWhile (· ≠ '\n')) :: pieces (afterLine s)
  | '/' :: '*' :: s =>
    match closed : afterClose? s with
    | some rest =>
      have _ := afterClose?_length_lt closed
      .comment ('/' :: '*' :: (beforeClose s ++ ['*', '/'])) :: pieces rest
    | none => .code '/' :: pieces ('*' :: s)
  | c :: s => .code c :: pieces s
termination_by s => s.length

/-- A block comment begins at the head of a text and is closed. -/
def opensBlock : List Char → Bool
  | '/' :: '*' :: s => (afterClose? s).isSome
  | _ => false

/-- The newline at the end of a line comment and all after it, where a `/*` with
a later `*/` is passed over, and the newlines between them too. -/
def afterLineOutside : List Char → List Char
  | [] => []
  | '/' :: '*' :: s =>
    match closed : afterClose? s with
    | some rest =>
      have _ := afterClose?_length_lt closed
      afterLineOutside rest
    | none => afterLineOutside ('*' :: s)
  | '\n' :: s => '\n' :: s
  | _ :: s => afterLineOutside s
termination_by s => s.length

theorem afterLineOutside_length_le (s : List Char) : (afterLineOutside s).length ≤ s.length := by
  fun_induction afterLineOutside s with
  | case1 => exact Nat.le_refl 0
  | case2 s rest _ shorter ih => simp only [List.length_cons]; omega
  | case3 s _ ih => exact Nat.le_succ_of_le ih
  | case4 s => exact Nat.le_refl _
  | case5 c s _ _ ih => exact Nat.le_succ_of_le ih

/-- A text without its comments, read once from left to right. A block comment
is one inside a line comment too, and in `//*` before it is one behind `//`. -/
def stripOnce : List Char → List Char
  | [] => []
  | '/' :: '*' :: s =>
    match closed : afterClose? s with
    | some rest =>
      have _ := afterClose?_length_lt closed
      ' ' :: stripOnce rest
    | none => '/' :: stripOnce ('*' :: s)
  | '/' :: '/' :: s =>
    have _ := afterLineOutside_length_le s
    if opensBlock ('/' :: s) then '/' :: stripOnce ('/' :: s) else stripOnce (afterLineOutside s)
  | c :: s => c :: stripOnce s
termination_by s => s.length

/-- Some `/*` has no `*/` behind it. -/
def leavesOpen : List Char → Bool
  | [] => false
  | '/' :: '*' :: s =>
    match closed : afterClose? s with
    | some rest =>
      have _ := afterClose?_length_lt closed
      leavesOpen rest
    | none => true
  | _ :: s => leavesOpen s
termination_by s => s.length

/-- What stands behind `//` up to the end of the line, together with what
follows, has a `/*` and a `*/` that reach out of the comment: the `/*` is closed
behind the line only, or its slash is the second one of `//`. -/
def escapes (line after : List Char) : Bool :=
  leavesOpen line && (afterClose? after).isSome ||
    line.head? = some '*' && (afterClose? (line.tail ++ after)).isSome

/-- Nothing escapes from the comments behind `//`. -/
def confined : List Piece → Bool
  | [] => true
  | .comment ('/' :: '/' :: line) :: ps => !escapes line (texts ps) && confined ps
  | _ :: ps => confined ps

theorem afterLineOutside_block (a : List Char) : afterLineOutside ('/' :: '*' :: a) =
    match afterClose? a with
    | some rest => afterLineOutside rest
    | none => afterLineOutside ('*' :: a) := by
  rw [afterLineOutside]
  split
  · rename_i closed; simp only [closed]
  · rename_i unclosed; simp only [unclosed]

theorem leavesOpen_block (a : List Char) : leavesOpen ('/' :: '*' :: a) =
    match afterClose? a with
    | some rest => leavesOpen rest
    | none => true := by
  rw [leavesOpen]
  split
  · rename_i closed; simp only [closed]
  · rename_i unclosed; simp only [unclosed]

theorem kept_append (ps qs : List Piece) : kept (ps ++ qs) = kept ps ++ kept qs :=
  List.flatMap_append

theorem kept_map_code (w : List Char) : kept (w.map .code) = w := by
  induction w with
  | nil => rfl
  | cons c w ih => exact congrArg (c :: ·) ih

theorem texts_pieces (s : List Char) : texts (pieces s) = s := by
  fun_induction pieces s with
  | case1 => rfl
  | case2 s _ ih =>
    rw [texts_comment, ih]
    exact congrArg ('/' :: '/' :: ·) List.takeWhile_append_dropWhile
  | case3 s rest closed _ ih =>
    obtain ⟨split, -⟩ := afterClose?_append closed
    have whole : beforeClose s ++ ['*', '/'] ++ rest = s := by
      rw [List.append_assoc]
      exact split.symm
    rw [texts_comment, ih]
    exact congrArg ('/' :: '*' :: ·) whole
  | case4 s _ ih => rw [texts_code, ih]
  | case5 c s _ _ ih => rw [texts_code, ih]

section
variable {a b : List Char}

theorem afterClose?_append_of_some {rest : List Char} (closed : afterClose? a = some rest) :
    afterClose? (a ++ b) = some (rest ++ b) := by
  obtain ⟨split, closes⟩ := afterClose?_append closed
  rw [split, List.append_assoc]
  exact closes (rest ++ b)

theorem afterClose?_append_of_none (unclosed : afterClose? a = none)
    (apart : startsWith (fun d => d = '/' || d = '*') b = false) :
    afterClose? (a ++ b) = afterClose? b := by
  fun_induction afterClose? a with
  | case1 => rfl
  | case2 s => cases unclosed
  | case3 c s other ih =>
    rw [List.cons_append, afterClose?, ih unclosed]
    rintro t star slash
    cases s with
    | nil =>
      rw [List.nil_append] at slash
      rw [slash] at apart
      cases apart
    | cons d s =>
      cases (List.cons.inj slash).1
      exact other s star rfl

theorem dropBlockComments_block (a : List Char) : dropBlockComments ('/' :: '*' :: a) =
    match afterClose? a with
    | some rest => ' ' :: dropBlockComments rest
    | none => '/' :: dropBlockComments ('*' :: a) := by
  rw [dropBlockComments]
  split
  · rename_i closed; simp only [closed]
  · rename_i unclosed; simp only [unclosed]

theorem dropBlockComments_of_unopened {c : Char} (unopened : opensBlock (c :: a) = false) :
    dropBlockComments (c :: a) = c :: dropBlockComments a := by
  by_cases block : ∃ s, c = '/' ∧ a = '*' :: s
  · obtain ⟨s, rfl, rfl⟩ := block
    have unclosed : afterClose? s = none := by simpa [opensBlock] using unopened
    simp only [dropBlockComments_block, unclosed]
  · rw [dropBlockComments]
    intro s slash star
    exact block ⟨s, slash, star⟩

theorem opensBlock_eq_false {c : Char} (block : ∀ s, c = '/' → a = '*' :: s → False) :
    opensBlock (c :: a) = false := by
  rw [opensBlock]
  intro s same
  exact block s (List.cons.inj same).1 (List.cons.inj same).2

/-- Block comments leave a space behind, so another kind of character at the
head was there before. -/
theorem startsWith_dropBlockComments {kind : Char → Bool} (space : kind ' ' = false)
    (none : startsWith kind a = false) : startsWith kind (dropBlockComments a) = false := by
  fun_cases dropBlockComments a with
  | case1 => rfl
  | case2 => exact space
  | case3 => exact none
  | case4 => exact none

theorem startsWith_dropBlockComments_of_opensBlock {kind : Char → Bool} (block : opensBlock a) :
    startsWith kind (dropBlockComments a) = kind ' ' := by
  rw [opensBlock.eq_def] at block
  split at block
  · obtain ⟨rest, closed⟩ := Option.isSome_iff_exists.mp block
    simp only [dropBlockComments_block, closed]
    rfl
  · cases block

theorem strip_of_some {rest : List Char} (closed : afterClose? a = some rest) :
    strip ('/' :: '*' :: a) = ' ' :: strip rest := by
  simp only [strip, dropBlockComments_block, closed]
  rw [dropLineComments]
  · rintro t ⟨⟩

theorem strip_code {c : Char} (unopened : opensBlock (c :: a) = false)
    (line : c = '/' → startsWith (· = '/') (dropBlockComments a) = false) :
    strip (c :: a) = c :: strip a := by
  rw [strip, dropBlockComments_of_unopened unopened, dropLineComments]
  · rfl
  · intro s slash next
    have apart := line slash
    rw [next] at apart
    cases apart

theorem dropBlockComments_afterLineOutside (s : List Char) :
    dropBlockComments (afterLineOutside s) = afterLine (dropBlockComments s) := by
  fun_induction afterLineOutside s with
  | case1 => rw [dropBlockComments]; rfl
  | case2 s rest closed _ ih =>
    simp only [dropBlockComments_block, closed, ih]
    rfl
  | case3 s unclosed ih =>
    simp only [dropBlockComments_block, unclosed, ih]
    rfl
  | case4 s =>
    rw [dropBlockComments_of_unopened rfl]
    rfl
  | case5 c s block other ih =>
    have passed : ∀ t, afterLine (c :: t) = afterLine t := fun t =>
      List.dropWhile_cons_of_pos (decide_eq_true other)
    rw [dropBlockComments_of_unopened (opensBlock_eq_false block), passed, ih]

theorem strip_line (unopened : opensBlock ('/' :: a) = false) :
    strip ('/' :: '/' :: a) = strip (afterLineOutside a) := by
  rw [strip, dropBlockComments_of_unopened rfl, dropBlockComments_of_unopened unopened,
    dropLineComments, ← dropBlockComments_afterLineOutside]
  rfl

theorem strip_star (unclosed : afterClose? a = none) :
    strip ('/' :: '*' :: a) = '/' :: strip ('*' :: a) := by
  have unopened : opensBlock ('/' :: '*' :: a) = false := by rw [opensBlock, unclosed]; rfl
  exact strip_code unopened fun _ => startsWith_dropBlockComments rfl rfl

theorem strip_other {c : Char} (line : ∀ s, c = '/' → a = '/' :: s → False)
    (block : ∀ s, c = '/' → a = '*' :: s → False) : strip (c :: a) = c :: strip a := by
  refine strip_code (opensBlock_eq_false block) fun slash => startsWith_dropBlockComments rfl ?_
  cases a with
  | nil => rfl
  | cons d s => exact decide_eq_false fun same => line s slash (congrArg (· :: s) same)

theorem strip_eq_stripOnce (s : List Char) : strip s = stripOnce s := by
  fun_induction stripOnce s with
  | case1 => exact strip_of_uncommented rfl
  | case2 s rest closed _ ih => rw [strip_of_some closed, ih]
  | case3 s unclosed ih => rw [strip_star unclosed, ih]
  | case4 s _ block ih =>
    -- the second slash opens a block comment, so that none of the two begins a line comment
    have blanked : startsWith (· = '/') (dropBlockComments ('/' :: s)) = false :=
      startsWith_dropBlockComments_of_opensBlock block
    rw [strip_code rfl fun _ => blanked, ih]
  | case5 s _ unopened ih => rw [strip_line (Bool.eq_false_iff.mpr unopened), ih]
  | case6 c s block line ih => rw [strip_other line block, ih]

theorem eq_nil_or_newline (stop : startsWith (· ≠ '\n') b = false) : b = [] ∨ ∃ t, b = '\n' :: t := by
  cases b with
  | nil => exact .inl rfl
  | cons d t => exact .inr ⟨t, congrArg (· :: t) (by simpa [startsWith] using stop)⟩

theorem apart_of_stop (stop : startsWith (· ≠ '\n') b = false) :
    startsWith (fun d => d = '/' || d = '*') b = false := by
  obtain rfl | ⟨t, rfl⟩ := eq_nil_or_newline stop
  · rfl
  · rfl

/-- A character that begins no block comment in a text begins none in a longer text that goes
on with neither a slash nor a star. -/
theorem block_append {c : Char} (apart : startsWith (fun d => d = '/' || d = '*') b = false)
    (block : ∀ s, c = '/' → a = '*' :: s → False) (s : List Char) (slash : c = '/')
    (star : a ++ b = '*' :: s) : False := by
  cases a with
  | nil =>
    rw [List.nil_append] at star
    rw [star] at apart
    cases apart
  | cons d a =>
    cases (List.cons.inj star).1
    exact block a slash rfl

/-- The line ends at its newline if no block comment begins on it and is closed behind it. -/
theorem afterLineOutside_append (whole : '\n' ∉ a) (stop : startsWith (· ≠ '\n') b = false)
    (held : leavesOpen a → afterClose? b = none) : afterLineOutside (a ++ b) = b := by
  have apart := apart_of_stop stop
  fun_induction afterLineOutside a with
  | case1 =>
    obtain rfl | ⟨t, rfl⟩ := eq_nil_or_newline stop
    · rw [List.nil_append, afterLineOutside]
    · rw [List.nil_append, afterLineOutside]
  | case2 s rest closed _ ih =>
    obtain ⟨split, -⟩ := afterClose?_append closed
    have later : '\n' ∉ rest := by
      intro member
      refine whole (List.mem_cons_of_mem _ (List.mem_cons_of_mem _ ?_))
      rw [split]
      simp [member]
    simp only [leavesOpen_block, closed] at held
    simp only [List.cons_append, afterLineOutside_block, afterClose?_append_of_some closed]
    exact ih later held
  | case3 s unclosed ih =>
    simp only [leavesOpen_block, unclosed, forall_const] at held
    have later := mt (List.mem_cons_of_mem _) whole
    have unclosed' : afterClose? (s ++ b) = none :=
      (afterClose?_append_of_none unclosed apart).trans held
    simp only [List.cons_append, afterLineOutside_block, unclosed']
    exact ih later fun _ => held
  | case4 s => exact absurd (List.mem_cons_self ..) whole
  | case5 c s block other ih =>
    have later := mt (List.mem_cons_of_mem _) whole
    have held' : leavesOpen s → afterClose? b = none := by
      rw [leavesOpen] at held
      · exact held
      · exact block
    rw [List.cons_append, afterLineOutside]
    · exact ih later held'
    · exact block_append apart block
    · exact other

theorem opensBlock_append (apart : startsWith (fun d => d = '/' || d = '*') b = false)
    (held : escapes a b = false) : opensBlock ('/' :: (a ++ b)) = false := by
  obtain ⟨-, star⟩ := Bool.or_eq_false_iff.mp held
  by_cases next : a.head? = some '*'
  · obtain ⟨s, rfl⟩ := List.head?_eq_some_iff.mp next
    have unclosed : afterClose? (s ++ b) = none := by simpa using star
    rw [List.cons_append, opensBlock, unclosed]
    rfl
  · refine opensBlock_eq_false (block_append apart fun s _ same => ?_)
    rw [same] at next
    exact next rfl

/-- A comment behind `//` goes with its line if nothing escapes from it. -/
theorem strip_line_append (whole : '\n' ∉ a) (stop : startsWith (· ≠ '\n') b = false)
    (held : escapes a b = false) : strip ('/' :: '/' :: (a ++ b)) = strip b := by
  have inside : leavesOpen a → afterClose? b = none := by
    obtain ⟨opened, -⟩ := Bool.or_eq_false_iff.mp held
    intro leaves
    simpa [leaves] using opened
  rw [strip_line (opensBlock_append (apart_of_stop stop) held),
    afterLineOutside_append whole stop inside]

end

theorem strip_eq_kept {s : List Char} (held : confined (pieces s)) : strip s = kept (pieces s) := by
  fun_induction pieces s with
  | case1 => exact strip_of_uncommented rfl
  | case2 s _ ih =>
    obtain ⟨line, rest⟩ := Bool.and_eq_true_iff.mp held
    have whole : '\n' ∉ s.takeWhile (· ≠ '\n') := fun member =>
      absurd (List.mem_takeWhile_imp member) (by decide)
    have stop : startsWith (· ≠ '\n') (afterLine s) = false := startsWith_dropWhile (· ≠ '\n') s
    -- the comment as it was read, with what follows it
    have split : s.takeWhile (· ≠ '\n') ++ afterLine s = s := List.takeWhile_append_dropWhile
    rw [texts_pieces, Bool.not_eq_true'] at line
    have gone := strip_line_append whole stop line
    rw [split] at gone
    exact gone.trans (ih rest)
  | case3 s rest closed _ ih =>
    rw [strip_of_some closed, ih held]
    rfl
  | case4 s unclosed ih =>
    rw [strip_star unclosed, ih held]
    rfl
  | case5 c s line block ih =>
    rw [strip_other line block, ih held]
    rfl

/-- Comments are taken out of a text as by one reading from left to right that knows block
comments inside line comments too. Where nothing escapes from a line comment, this leaves what
stands outside the comments of the text, and a space for each of its block comments. -/
theorem strip_lexes (s : List Char) :
    strip s = stripOnce s ∧ texts (pieces s) = s ∧
      (confined (pieces s) → strip s = kept (pieces s) ∧
        ∀ before declaration after, pieces s = before ++ declaration.map .code ++ after →
          strip s = kept before ++ declaration ++ kept after) := by
  refine ⟨strip_eq_stripOnce s, texts_pieces s, fun held => ⟨strip_eq_kept held, ?_⟩⟩
  intro before declaration after parts
  rw [strip_eq_kept held, parts, kept_append, kept_append, kept_map_code]

/-- A text in which nothing escapes from the comments behind `//`. -/
def mixedComments : List Char :=
  "int a; // see /* this */ one\n/* two */ int b; // lib/*.h".toList

theorem strip_lexes_mixedComments :
    confined (pieces mixedComments) ∧ strip mixedComments = "int a; \n  int b; ".toList ∧
      pieces mixedComments = (pieces mixedComments).take 11 ++ "int b;".toList.map .code ++
        (pieces mixedComments).drop 17 ∧
      strip mixedComments =
        kept ((pieces mixedComments).take 11) ++ "int b;".toList ++
          kept ((pieces mixedComments).drop 17) := by
  have held : confined (pieces mixedComments) := by decide +kernel
  have parts : pieces mixedComments = (pieces mixedComments).take 11 ++ "int b;".toList.map .code ++
      (pieces mixedComments).drop 17 := by decide +kernel
  have once : stripOnce mixedComments = "int a; \n  int b; ".toList := by decide +kernel
  obtain ⟨same, -, lexed⟩ := strip_lexes mixedComments
  exact ⟨held, same.trans once, parts, (lexed held).2 _ _ _ parts⟩

/-- A `/*` behind `//` that is closed on a later line takes what is declared between them along. -/
theorem strip_ne_kept :
    pieces "// see src/*.h\nuint32_t x;\n/* y */".toList =
        [.comment "// see src/*.h".toList] ++ "\nuint32_t x;\n".toList.map .code ++
          [.comment "/* y */".toList] ∧
      kept (pieces "// see src/*.h\nuint32_t x;\n/* y */".toList) = "\nuint32_t x;\n ".toList ∧
      strip "// see src/*.h\nuint32_t x;\n/* y */".toList = [] := by
  decide +kernel

end HeaderTypes.Comment
