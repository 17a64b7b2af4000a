import HeaderTypes.Proofs.Header.Clear
import HeaderTypes.Proofs.Header.Names
import Mathlib.Data.List.Forall2

namespace HeaderTypes.Header
open Text Comment

/-- What is found is alike: the same name on the same line, or a fault in both. -/
inductive Alike : Finding → Finding → Prop
  | block {name body body' line} : Alike (.block ⟨name, body, line⟩) (.block ⟨name, body', line⟩)
  | forward {line} : Alike (.forward line) (.forward line)
  | malformed {block block'} : Alike (.malformed block) (.malformed block')

section Comments
variable {inside s : List Char}

theorem declarationEnd?_line (whole : '\n' ∉ inside) (stop : startsWith (· ≠ '\n') s = false) :
    declarationEnd? ('/' :: '/' :: inside ++ s) = declarationEnd? s := by
  rw [List.cons_append, List.cons_append, declarationEnd?, afterLine_append whole stop]

theorem afterClose?_append_close (closes : ∀ t, afterClose? (inside ++ '*' :: '/' :: t) = some t) :
    afterClose? (inside ++ ['*', '/'] ++ s) = some s := by
  rw [List.append_assoc]
  exact closes s

theorem declarationEnd?_block (closes : ∀ t, afterClose? (inside ++ '*' :: '/' :: t) = some t) :
    declarationEnd? ('/' :: '*' :: (inside ++ ['*', '/']) ++ s) = declarationEnd? s := by
  have closed := afterClose?_append_close (s := s) closes
  rw [List.cons_append, List.cons_append, declarationEnd?]
  split
  · rename_i found
    cases closed.symm.trans found
    rfl
  · rename_i open'
    cases closed.symm.trans open'

theorem skipGap_line (whole : '\n' ∉ inside) (stop : startsWith (· ≠ '\n') s = false)
    (filled : s ≠ []) : skipGap ('/' :: '/' :: inside ++ s) = skipGap s := by
  have after : afterLine (inside ++ s) = s := afterLine_append whole stop
  rw [List.cons_append, List.cons_append, skipGap_of_line (after.symm ▸ filled), after]

theorem skipGap_lastLine (whole : '\n' ∉ inside) :
    skipGap ('/' :: '/' :: inside) = inside.getLast?.toList := by
  have none := afterLine_append (s := []) whole rfl
  rw [List.append_nil] at none
  rw [skipGap]
  split
  · rfl
  · rename_i after
    cases none.symm.trans after

theorem skipGap_block (closes : ∀ t, afterClose? (inside ++ '*' :: '/' :: t) = some t) :
    skipGap ('/' :: '*' :: (inside ++ ['*', '/']) ++ s) = skipGap s := by
  have closed := afterClose?_append_close (s := s) closes
  rw [List.cons_append, List.cons_append, skipGap]
  split
  · rename_i found
    cases closed.symm.trans found
    rfl
  · rename_i open'
    cases closed.symm.trans open'

end Comments

theorem declarationEnd?_append_gap {gap : List Char} (blank : ∀ c ∈ gap, isBlank c) (s : List Char) :
    declarationEnd? (gap ++ s) = declarationEnd? s := by
  induction gap with
  | nil => rfl
  | cons c gap ih =>
    obtain ⟨first, others⟩ := List.forall_mem_cons.mp blank
    have other (d : Char) (visible : isBlank d = false) : c ≠ d := by
      rintro rfl
      exact Bool.false_ne_true (visible.symm.trans first)
    rw [List.cons_append, declarationEnd?_cons (begins_of_ne (other '/' rfl) _), if_neg, ih others]
    simp [other '{' rfl, other ';' rfl]

theorem begins_blanks {c : Char} {ps : List Piece} (lexed : Lexed (.code c :: ps)) :
    begins c (blanks ps) = false :=
  (uncommented_cons_iff.mp (uncommented_blanks lexed)).1

/-- A declaration ends at the same place with and without comments. -/
theorem declarationEnd?_blanks {ps : List Piece} (lexed : Lexed ps) :
    Option.Rel (fun found found' => found.1 = found'.1 ∧ Later ps found.2 found'.2)
      (declarationEnd? (texts ps)) (declarationEnd? (blanks ps)) := by
  have longer {p : Piece} {ps : List Piece} {a b : Option (Char × List Char)}
      (alike : Option.Rel (fun found found' => found.1 = found'.1 ∧ Later ps found.2 found'.2) a b) :
      Option.Rel (fun found found' => found.1 = found'.1 ∧ Later (p :: ps) found.2 found'.2) a b := by
    cases alike with
    | none => exact .none
    | some alike => exact .some ⟨alike.1, alike.2.longer⟩
  induction lexed with
  | nil =>
    rw [texts_nil, blanks_nil, declarationEnd?]
    exact .none
  | @code c ps none rest ih =>
    have none' := begins_blanks (.code none rest)
    rw [texts_code, blanks_code, declarationEnd?_cons none, declarationEnd?_cons none']
    split
    · exact .some ⟨rfl, ps, List.suffix_cons _ _, rfl, rfl⟩
    · exact longer ih
  | line whole stop _ ih =>
    rw [texts_comment, blanks_comment, declarationEnd?_line whole stop,
      declarationEnd?_append_gap isBlank_of_mem_blank]
    exact longer ih
  | block closes _ ih =>
    rw [texts_comment, blanks_comment, declarationEnd?_block closes,
      declarationEnd?_append_gap isBlank_of_mem_blank]
    exact longer ih

/-- A text ends in a gap. A line comment may have given its last character back. -/
def Cut (s s' : List Char) : Prop := s' = [] ∧ s.length ≤ 1 ∧ ';' ∉ s

/-- A gap ends at the same place with and without comments, if the text does not end in it. -/
theorem skipGap_blanks {ps : List Piece} (lexed : Lexed ps) {atStart : Bool}
    (clear : Clear atStart ps) :
    Later ps (skipGap (texts ps)) (skipGap (blanks ps)) ∨
      Cut (skipGap (texts ps)) (skipGap (blanks ps)) := by
  induction lexed generalizing atStart with
  | nil => exact Or.inl ⟨[], List.suffix_refl _, by rw [texts_nil, skipGap], by rw [blanks_nil, skipGap]⟩
  | @code c ps none rest ih =>
    have none' := begins_blanks (.code none rest)
    rw [texts_code, blanks_code, skipGap_cons none, skipGap_cons none']
    split
    · exact (ih clear.2.2).imp_left Later.longer
    · exact Or.inl ⟨_, List.suffix_refl _, rfl, rfl⟩
  | @line inside ps whole stop rest ih =>
    obtain ⟨-, -, last, clear⟩ := clear
    rw [texts_comment, blanks_comment, skipGap_append isBlank_of_mem_blank]
    -- a line comment that ends the text gives its last character back, another one does not
    by_cases empty : texts ps = []
    · obtain rfl := texts_eq_nil rest empty
      rw [texts_nil, List.append_nil, skipGap_lastLine whole, blanks_nil, skipGap]
      refine Or.inr ⟨rfl, ?_, ?_⟩
      · cases inside.getLast? <;> simp
      · rw [Option.mem_toList]
        intro ends
        cases inside with
        | nil => cases ends
        | cons d inside => exact last rfl (by rwa [List.getLast?_cons_cons, List.getLast?_cons_cons])
    · rw [skipGap_line whole stop empty]
      exact (ih clear).imp_left Later.longer
  | block closes _ ih =>
    rw [texts_comment, blanks_comment, skipGap_block closes, skipGap_append isBlank_of_mem_blank]
    exact (ih clear.2.2.2).imp_left Later.longer

/-- A tag is the same with and without comments. -/
theorem readName?_blanks {ps : List Piece} (lexed : Lexed ps) :
    Option.Rel (fun read read' => read.1 = read'.1 ∧ Later ps read.2 read'.2)
      (readName? (texts ps)) (readName? (blanks ps)) := by
  cases read : readName? (texts ps) with
  | none =>
    have none : readName? (blanks ps) = none := by
      refine Option.not_isSome_iff_eq_none.mp fun starts => ?_
      rw [readName?_isSome] at starts
      have starts' := startsWith_of_blanks rfl starts
      rw [← readName?_isSome, read] at starts'
      cases starts'
    rw [none]
    exact .none
  | some both =>
    obtain ⟨tag, rest⟩ := both
    obtain ⟨same, named, stop⟩ := readName?_eq_some_iff.mp read
    obtain ⟨qs, rfl, rfl⟩ := lexed.exists_code (not_mem_of_isName named rfl) same
    have lexed' := lexed.of_suffix (List.suffix_append _ _)
    have read' : readName? (blanks (tag.map .code ++ qs)) = some (tag, blanks qs) := by
      refine readName?_eq_some_iff.mpr ⟨blanks_map_code tag qs, named, ?_⟩
      rwa [startsWith_blanks rfl rfl lexed']
    rw [read']
    exact .some ⟨rfl, qs, List.suffix_append _ _, rfl, rfl⟩

/-- The head of a definition is the same with and without comments, if the text
does not end in it. -/
theorem readHead_blanks {ps : List Piece} (lexed : Lexed ps) {atStart : Bool}
    (clear : Clear atStart ps) :
    (readHead (texts ps)).1 = (readHead (blanks ps)).1 ∧
        Later ps (readHead (texts ps)).2 (readHead (blanks ps)).2 ∨
      Cut (readHead (texts ps)).2 (readHead (blanks ps)).2 := by
  unfold readHead
  rcases skipGap_blanks lexed clear with ⟨qs, tail, same, same'⟩ | ⟨empty, short, closed⟩
  · rw [same, same']
    have read := readName?_blanks (lexed.of_suffix tail)
    generalize readName? (texts qs) = found, readName? (blanks qs) = found' at read
    cases read with
    | none => exact Or.inl ⟨rfl, qs, tail, rfl, rfl⟩
    | @some named named' both =>
      obtain ⟨tag, rest⟩ := named
      obtain ⟨tag', rest'⟩ := named'
      obtain ⟨rfl, rs, tail', rfl, rfl⟩ := both
      have tail := tail'.trans tail
      rcases skipGap_blanks (lexed.of_suffix tail) (clear.of_suffix tail) with later | cut
      · exact Or.inl ⟨rfl, later.mono tail⟩
      · exact Or.inr cut
  · rw [empty]
    cases read : readName? (skipGap (texts ps)) with
    | none => exact Or.inr ⟨rfl, short, closed⟩
    | some named =>
      obtain ⟨tag, rest⟩ := named
      have shorter := readName?_length_lt read
      obtain rfl : rest = [] := List.length_eq_zero_iff.mp (by omega)
      have none : skipGap [] = [] := by rw [skipGap]
      exact Or.inr ⟨rfl, by simp [none], by simp [none]⟩

/-- What is read of a definition is alike, with the same text behind it but for comments. -/
inductive ReadsAlike (ps : List Piece) :
    Except MalformedBlock (Finding × List Char) → Except MalformedBlock (Finding × List Char) → Prop
  | error {block block'} : ReadsAlike ps (.error block) (.error block')
  | ok {finding finding' s s'} : Alike finding finding' → Later ps s s' →
      ReadsAlike ps (.ok (finding, s)) (.ok (finding', s'))

/-- A gap that ends the text leaves no definition to read. -/
theorem readDefinition_of_cut {s rest : List Char} {tag : Option (List Char)}
    (head : readHead s = (tag, rest)) (short : rest.length ≤ 1) (closed : ';' ∉ rest) (line : Nat) :
    ∃ block, readDefinition line s = .error block := by
  cases rest with
  | nil => exact ⟨_, readDefinition_of_empty head line⟩
  | cons c rest =>
    obtain rfl : rest = [] := by simpa using short
    by_cases brace : c = '{'
    · rw [brace] at head
      exact ⟨_, readDefinition_of_no_marker head rfl line⟩
    · have different : c ≠ ';' := fun same => closed (same ▸ List.mem_cons_self)
      have none : begins c [] = false := by rw [begins, startsWith, Bool.and_false]
      have endless : declarationEnd? [c] = Option.none := by
        rw [declarationEnd?_cons none, if_neg (by simp [brace, different]), declarationEnd?]
      exact ⟨_, readDefinition_of_no_end head (List.cons_ne_nil _ _) (decide_eq_false brace) endless line⟩

theorem ReadsAlike.mono {ps qs : List Piece} (tail : qs <:+ ps)
    {read read' : Except MalformedBlock (Finding × List Char)} (alike : ReadsAlike qs read read') :
    ReadsAlike ps read read' := by
  cases alike with
  | error => exact .error
  | ok alike later => exact .ok alike (later.mono tail)

section Reading
variable {s s' : List Char} {tag : Option (List Char)}

theorem readsAlike_of_brace {ps : List Piece} (head : readHead s = (tag, '{' :: texts ps))
    (head' : readHead s' = (tag, '{' :: blanks ps)) (lexed : Lexed ps)
    (unmarked : Unmarked ((givenName tag).map String.toList) ps) (line : Nat) :
    ReadsAlike ps (readDefinition line s) (readDefinition line s') := by
  have splits := splitAtMarker?_blanks (isName_of_mem_givenName head) lexed unmarked
  generalize split : splitAtMarker? _ (texts ps) = found,
    split' : splitAtMarker? _ (blanks ps) = found' at splits
  cases splits with
  | none =>
    rw [readDefinition_of_no_marker head split, readDefinition_of_no_marker head' split']
    exact .error
  | @some both both' alike =>
    obtain ⟨body, found, after⟩ := both
    obtain ⟨body', found', after'⟩ := both'
    obtain ⟨same, later⟩ := alike
    obtain rfl : found = found' := same
    rw [readDefinition_of_marker head split, readDefinition_of_marker head' split']
    exact .ok .block later

theorem readsAlike_of_other {p : Piece} {ps : List Piece} (head : readHead s = (tag, texts (p :: ps)))
    (head' : readHead s' = (tag, blanks (p :: ps))) (brace : p ≠ .code '{') (lexed : Lexed (p :: ps))
    (line : Nat) : ReadsAlike (p :: ps) (readDefinition line s) (readDefinition line s') := by
  have other : startsWith (· = '{') (texts (p :: ps)) = false := by
    cases p with
    | code c => exact decide_eq_false fun same => brace (congrArg _ same)
    | comment w =>
      obtain ⟨⟨v, rfl⟩, -⟩ := lexed.comment
      rfl
  have other' : startsWith (· = '{') (blanks (p :: ps)) = false := by
    rwa [startsWith_blanks rfl rfl lexed]
  have filled : texts (p :: ps) ≠ [] := fun empty => List.cons_ne_nil _ _ (texts_eq_nil lexed empty)
  have filled' := blanks_ne_nil p ps
  have ends := declarationEnd?_blanks lexed
  generalize found : declarationEnd? (texts (p :: ps)) = ending,
    found' : declarationEnd? (blanks (p :: ps)) = ending' at ends
  cases ends with
  | none =>
    rw [readDefinition_of_no_end head filled other found,
      readDefinition_of_no_end head' filled' other' found']
    exact .error
  | @some both both' alike =>
    obtain ⟨c, after⟩ := both
    obtain ⟨c', after'⟩ := both'
    obtain ⟨same, later⟩ := alike
    obtain rfl : c = c' := same
    by_cases semicolon : c = ';'
    · subst semicolon
      rw [readDefinition_of_semicolon head filled other found,
        readDefinition_of_semicolon head' filled' other' found']
      exact .ok .forward later
    · rw [readDefinition_of_late_brace head filled other found semicolon,
        readDefinition_of_late_brace head' filled' other' found' semicolon]
      exact .error

end Reading

/-- A definition is read alike with and without comments. -/
theorem readDefinition_blanks {ps : List Piece} (lexed : Lexed ps) {atStart : Bool}
    (clear : Clear atStart ps) (unmasked : Unmasked (texts ps)) (line : Nat) :
    ReadsAlike ps (readDefinition line (texts ps)) (readDefinition line (blanks ps)) := by
  have heads := readHead_blanks lexed clear
  generalize head : readHead (texts ps) = parts at heads
  generalize head' : readHead (blanks ps) = parts' at heads
  obtain ⟨tag, rest⟩ := parts
  obtain ⟨tag', rest'⟩ := parts'
  rcases heads with ⟨rfl, qs, tail, rfl, rfl⟩ | ⟨rfl, short, closed⟩
  · cases qs with
    | nil =>
      rw [readDefinition_of_empty head, readDefinition_of_empty head']
      exact .error
    | cons p qs =>
      by_cases brace : p = .code '{'
      · subst brace
        have tail := (List.suffix_cons _ _).trans tail
        have lexed := lexed.of_suffix tail
        have body : body? (texts ps) = some ((givenName tag).map String.toList, qs) := by
          rw [body?, head]
          exact congrArg (Option.map _) (pieces?_eq_some_iff.mpr ⟨rfl, lexed⟩)
        exact (readsAlike_of_brace head head' lexed (unmasked _ body) line).mono tail
      · exact (readsAlike_of_other head head' brace (lexed.of_suffix tail) line).mono tail
  · obtain ⟨block, read⟩ := readDefinition_of_cut head short closed line
    rw [read, readDefinition_of_empty head']
    exact .error

theorem Later.newlinesBefore_eq {ps : List Piece} {start start' rest rest' : List Char}
    (begun : Later ps start start') (later : Later ps rest rest') :
    newlinesBefore rest start = newlinesBefore rest' start' := by
  obtain ⟨os, -, rfl, rfl⟩ := begun
  obtain ⟨qs, -, rfl, rfl⟩ := later
  rw [newlinesBefore, newlinesBefore, count_blanks, count_blanks]

/-- All that is found is alike with and without comments. -/
theorem findingsFrom_blanks {ps : List Piece} (lexed : Lexed ps) {atStart : Bool}
    (clear : Clear atStart ps) (line : Nat) :
    List.Forall₂ Alike (findingsFrom line atStart (texts ps)) (findingsFrom line atStart (blanks ps)) := by
  -- behind each definition the search goes on in a shorter text
  induction size : (texts ps).length using Nat.strongRecOn generalizing ps atStart line with
  | _ size ih =>
    have opens := nextOpening?_blanks lexed clear line
    generalize found : nextOpening? line atStart (texts ps) = next,
      found' : nextOpening? line atStart (blanks ps) = next' at opens
    cases opens with
    | none =>
      rw [findingsFrom_of_none found, findingsFrom_of_none found']
      exact .nil
    | @some opening opening' alike =>
      obtain ⟨sameLine, begun, ⟨qs, tail, rest, rest'⟩, unmasked⟩ := alike
      have reads := readDefinition_blanks (lexed.of_suffix tail) (clear.of_suffix tail)
        (rest ▸ unmasked) opening.line
      rw [← rest, ← rest'] at reads
      generalize read : readDefinition opening.line opening.rest = result,
        read' : readDefinition opening.line opening'.rest = result' at reads
      rw [sameLine] at read'
      cases reads with
      | error =>
        rw [findingsFrom_of_error found read, findingsFrom_of_error found' read']
        exact .cons .malformed .nil
      | @ok finding finding' s s' alike later =>
        have later := later.mono tail
        have counted := begun.newlinesBefore_eq later
        obtain ⟨rs, tail', rfl, rfl⟩ := later
        have shorter := nextOpening?_length_lt found
        have shorter' := readDefinition_length_le read
        rw [findingsFrom_of_opening found read, findingsFrom_of_opening found' read', ← sameLine,
          ← counted]
        exact .cons alike (ih _ (by omega) (lexed.of_suffix tail') (clear.of_suffix tail') _ rfl)

/-- What is alike gives blocks of the same names on the same lines, and a fault or none. -/
theorem blocks_of_alike {text text' : String} (alike : List.Forall₂ Alike (findings text) (findings text')) :
    (blocks text).1.map (fun block => (block.name, block.line)) =
        (blocks text').1.map (fun block => (block.name, block.line)) ∧
      (blocks text).2.isSome = (blocks text').2.isSome := by
  unfold blocks
  generalize findings text = found, findings text' = found' at alike
  induction alike with
  | nil => exact ⟨rfl, rfl⟩
  | @cons finding finding' found found' first _ ih =>
    cases first with
    | block => exact ⟨congrArg (_ :: ·) ih.1, ih.2⟩
    | forward => exact ih
    | malformed => exact ⟨ih.1, rfl⟩

/-- Where comments are out of the way of definitions, they do not decide what is found: the text
with its comments blanked out gives blocks of the same names on the same lines, and is refused
just if the text is. -/
theorem blocks_blanks (text : String) (ps : List Piece) (lexed : pieces? text.toList = some ps)
    (clear : Clear true ps) :
    (blocks text).1.map (fun block => (block.name, block.line)) =
        (blocks (String.ofList (blanks ps))).1.map (fun block => (block.name, block.line)) ∧
      (blocks text).2.isSome = (blocks (String.ofList (blanks ps))).2.isSome := by
  obtain ⟨same, lexed⟩ := lexed_of_pieces? lexed
  have alike := findingsFrom_blanks lexed clear 1
  rw [same] at alike
  refine blocks_of_alike ?_
  rw [findings, findings, String.toList_ofList]
  exact alike

/-- A header with comments before a definition, in its head and in its body. -/
def commentedHeader : String :=
  "// typedef struct \x7b \x7d o_t;\ntypedef struct a // \x7b\n\x7b int x; /* \x7d */ \x7d a_t;\n"

def commentedPieces : List Piece := (pieces? commentedHeader.toList).getD []

theorem blocks_blanks_commentedHeader :
    pieces? commentedHeader.toList = some commentedPieces ∧ Clear true commentedPieces ∧
      (blocks (String.ofList (blanks commentedPieces))).1.map
          (fun block => (block.name, block.line)) = [("a_t", 2)] ∧
      (blocks (String.ofList (blanks commentedPieces))).2.isSome = false := by
  have lexed : pieces? commentedHeader.toList = some commentedPieces := by decide +kernel
  have clear : Clear true commentedPieces := by decide +kernel
  have found : blocks commentedHeader = ([⟨"a_t", " int x;   ", 2⟩], none) := by decide +kernel
  have same := blocks_blanks commentedHeader commentedPieces lexed clear
  rw [found] at same
  exact ⟨lexed, clear, same.1.symm, same.2.symm⟩

/-- A definition in a comment is found, and a marker in a comment names a block. -/
theorem blocks_ne_blanks :
    (pieces? "/*\ntypedef struct \x7b uint32_t x; \x7d old_t;\n*/\n".toList).map
        (fun ps => (blocks (String.ofList (blanks ps))).1.map (·.name)) = some [] ∧
      (blocks "/*\ntypedef struct \x7b uint32_t x; \x7d old_t;\n*/\n").1.map (·.name) = ["old_t"] ∧
      (pieces? "typedef struct \x7b int a; /* \x7d b_t; */ int c; \x7d a_t;\n".toList).map
        (fun ps => (blocks (String.ofList (blanks ps))).1.map (·.name)) = some ["a_t"] ∧
      (blocks "typedef struct \x7b int a; /* \x7d b_t; */ int c; \x7d a_t;\n").1.map (·.name) =
        ["b_t"] := by
  decide +kernel

end HeaderTypes.Header
