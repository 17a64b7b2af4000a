import HeaderTypes.Field.Declaration
import HeaderTypes.Proofs.Text.Parts

namespace HeaderTypes.Written
open Text

/-- A token of a header: a word, or a mark that stands for itself. -/
inductive Lexeme
  | word (w : List Char)
  | mark (c : Char)
  deriving DecidableEq

namespace Lexeme

def isWord : Lexeme → Bool
  | word _ => true
  | mark _ => false

end Lexeme

/-- The marks next to which no blank is needed. -/
def marks : List Char := ['*', '(', ')', ',', ';', '{', '}']

/-- A text spells lexemes in their order, with any blanks before each of them.
Only between two words there has to be a blank. `glued` tells whether a word
stands right before the text. -/
inductive Spells : (glued : Bool) → List Lexeme → List Char → Prop
  | nil {glued} : Spells glued [] []
  | word {glued gap w ls s} : (∀ c ∈ gap, isBlank c) → (glued = true → gap ≠ []) → w ≠ [] →
      (∀ c ∈ w, isWord c) → Spells true ls s → Spells glued (.word w :: ls) (gap ++ (w ++ s))
  | mark {glued gap c ls s} : (∀ c ∈ gap, isBlank c) → c ∈ marks → Spells false ls s →
      Spells glued (.mark c :: ls) (gap ++ c :: s)

/-- A word stands right before what follows some lexemes. -/
def glues : (glued : Bool) → List Lexeme → Bool
  | glued, [] => glued
  | _, l :: ls => glues l.isWord ls

theorem comma_mem_marks : ',' ∈ marks := by decide

theorem semicolon_mem_marks : ';' ∈ marks := by decide

theorem isBlank_of_mem_marks {c : Char} (mark : c ∈ marks) : isBlank c = false := by
  have all : marks.all (fun c => !isBlank c) := by decide
  simpa using List.all_eq_true.mp all c mark

theorem isWord_of_mem_marks {c : Char} (mark : c ∈ marks) : isWord c = false := by
  have all : marks.all (fun c => !isWord c) := by decide
  simpa using List.all_eq_true.mp all c mark

theorem startsWith_isBlank_of_word {w : List Char} (some : w ≠ []) (words : ∀ c ∈ w, isWord c)
    (s : List Char) : startsWith isBlank (w ++ s) = false := by
  cases w with
  | nil => exact absurd rfl some
  | cons c w => exact isBlank_of_isWord (words c List.mem_cons_self)

theorem dropBlanks_word {gap w : List Char} (blank : ∀ c ∈ gap, isBlank c) (some : w ≠ [])
    (words : ∀ c ∈ w, isWord c) (s : List Char) : dropBlanks (gap ++ (w ++ s)) = w ++ s := by
  rw [dropBlanks_append blank, dropBlanks_of_visible (startsWith_isBlank_of_word some words s)]

theorem dropBlanks_mark {gap : List Char} {c : Char} (blank : ∀ c ∈ gap, isBlank c)
    (mark : c ∈ marks) (s : List Char) : dropBlanks (gap ++ c :: s) = c :: s := by
  rw [dropBlanks_append blank, dropBlanks_of_visible (s := c :: s) (isBlank_of_mem_marks mark)]

namespace Spells

/-- Lexemes one after the other are spelled by texts one after the other. -/
theorem append_inv {glued : Bool} {first last : List Lexeme} {s : List Char}
    (spells : Spells glued (first ++ last) s) :
    ∃ a b, s = a ++ b ∧ Spells glued first a ∧ Spells (glues glued first) last b := by
  induction first generalizing glued s with
  | nil => exact ⟨[], s, rfl, .nil, spells⟩
  | cons l first ih =>
    cases spells with
    | word blank apart some words rest =>
      obtain ⟨a, b, rfl, head, tail⟩ := ih rest
      exact ⟨_, b, by simp only [List.append_assoc], .word blank apart some words head, tail⟩
    | mark blank mark rest =>
      obtain ⟨a, b, rfl, head, tail⟩ := ih rest
      exact ⟨_, b, by simp only [List.append_assoc, List.cons_append], .mark blank mark head, tail⟩

/-- A text holds blanks, word characters and its marks. -/
theorem isBlank_or_isWord_or_mem {glued : Bool} {ls : List Lexeme} {s : List Char}
    (spells : Spells glued ls s) : ∀ c ∈ s, isBlank c ∨ isWord c ∨ .mark c ∈ ls := by
  induction spells with
  | nil => nofun
  | word blank _ _ words _ ih =>
    intro c member
    rcases List.mem_append.mp member with gap | member
    · exact Or.inl (blank c gap)
    · rcases List.mem_append.mp member with first | rest
      · exact Or.inr (Or.inl (words c first))
      · exact (ih c rest).imp_right (Or.imp_right (List.mem_cons_of_mem _))
  | mark blank _ _ ih =>
    intro c member
    rcases List.mem_append.mp member with gap | member
    · exact Or.inl (blank c gap)
    · rcases List.mem_cons.mp member with rfl | rest
      · exact Or.inr (Or.inr List.mem_cons_self)
      · exact (ih c rest).imp_right (Or.imp_right (List.mem_cons_of_mem _))

theorem not_mem {glued : Bool} {ls : List Lexeme} {s : List Char} (spells : Spells glued ls s)
    {c : Char} (visible : isBlank c = false) (other : isWord c = false) (absent : .mark c ∉ ls) :
    c ∉ s := by
  intro member
  rcases spells.isBlank_or_isWord_or_mem c member with blank | word | mark
  · exact Bool.false_ne_true (visible.symm.trans blank)
  · exact Bool.false_ne_true (other.symm.trans word)
  · exact absent mark

theorem ne_nil {glued : Bool} {ls : List Lexeme} {s : List Char} (spells : Spells glued ls s)
    (some : ls ≠ []) : s ≠ [] := by
  cases spells with
  | nil => exact absurd rfl some
  | word _ _ some' _ _ => simp [some']
  | mark _ _ _ => simp

/-- After a word comes no other word character. -/
theorem startsWith_isWord {ls : List Lexeme} {s : List Char} (spells : Spells true ls s) :
    startsWith isWord s = false := by
  cases spells with
  | nil => rfl
  | @word _ gap w ls s blank apart _ _ _ =>
    refine startsWith_false_of_blank (fun c blank => isWord_of_isBlank blank) (Or.inr ?_)
    rw [startsWith_append (apart rfl)]
    exact startsWith_of_mem blank (apart rfl)
  | @mark _ gap c ls s blank mark _ =>
    cases gap with
    | nil => exact isWord_of_mem_marks mark
    | cons d gap => exact isWord_of_isBlank (blank d List.mem_cons_self)

theorem startsWith_isWord_append {ls : List Lexeme} {s : List Char} (spells : Spells true ls s)
    (some : ls ≠ []) (rest : List Char) : startsWith isWord (s ++ rest) = false := by
  rw [startsWith_append (spells.ne_nil some)]
  exact spells.startsWith_isWord

/-- A name at the head of a text is read, blanks before it skipped. -/
theorem readName? {glued : Bool} {w : List Char} {ls : List Lexeme} {s : List Char}
    (spells : Spells glued (.word w :: ls) s) (named : isName w) :
    ∃ t, Text.readName? (dropBlanks s) = some (w, t) ∧ Spells true ls t := by
  cases spells with
  | word blank _ some words rest =>
    refine ⟨_, ?_, rest⟩
    rw [dropBlanks_word blank some words]
    exact readName?_eq_some_iff.mpr ⟨rfl, named, rest.startsWith_isWord⟩

/-- A mark at the head of a text is read, blanks before it skipped. -/
theorem after? {glued : Bool} {c : Char} {ls : List Lexeme} {s : List Char}
    (spells : Spells glued (.mark c :: ls) s) :
    ∃ t, Declaration.after? c s = some t ∧ Spells false ls t := by
  cases spells with
  | mark blank mark rest =>
    refine ⟨_, ?_, rest⟩
    simp only [Declaration.after?, dropBlanks_mark blank mark, if_true]

/-- The blanks before the first lexeme can be left out. -/
theorem dropBlanks {glued : Bool} {ls : List Lexeme} {s : List Char} (spells : Spells glued ls s) :
    ∃ gap, s = gap ++ Text.dropBlanks s ∧ (∀ c ∈ gap, isBlank c) ∧
      Spells false ls (Text.dropBlanks s) ∧ startsWith isBlank (Text.dropBlanks s) = false := by
  cases spells with
  | nil => exact ⟨[], rfl, nofun, .nil, rfl⟩
  | @word _ gap w ls s blank _ some words rest =>
    have dropped := dropBlanks_word blank some words s
    refine ⟨gap, by rw [dropped], blank, ?_, by rw [dropped, startsWith_isBlank_of_word some words]⟩
    rw [dropped, ← List.nil_append (w ++ s)]
    exact .word nofun nofun some words rest
  | @mark _ gap c ls s blank mark rest =>
    have dropped := dropBlanks_mark blank mark s
    refine ⟨gap, by rw [dropped], blank, ?_, by rw [dropped]; exact isBlank_of_mem_marks mark⟩
    rw [dropped, ← List.nil_append (c :: s)]
    exact .mark nofun mark rest

/-- A text ends with its last lexeme. -/
theorem final {glued : Bool} {ls : List Lexeme} {s : List Char} (spells : Spells glued ls s) :
    startsWith isBlank s.reverse = false := by
  induction spells with
  | nil => rfl
  | @word _ gap w ls s _ _ some words _ ih =>
    rw [List.reverse_append, List.reverse_append]
    cases s with
    | nil =>
      rw [List.reverse_nil, List.nil_append, startsWith_append (by simpa)]
      cases reversed : w.reverse with
      | nil => exact absurd (List.reverse_eq_nil_iff.mp reversed) some
      | cons c rest =>
        have member : c ∈ w := List.mem_reverse.mp (reversed ▸ List.mem_cons_self)
        exact isBlank_of_isWord (words c member)
    | cons d s => rwa [List.append_assoc, startsWith_append (by simp)]
  | @mark _ gap c ls s _ mark _ ih =>
    rw [List.reverse_append, List.reverse_cons]
    cases s with
    | nil => exact isBlank_of_mem_marks mark
    | cons d s => rwa [List.append_assoc, startsWith_append (by simp)]

theorem trim {glued : Bool} {ls : List Lexeme} {s trail : List Char} (spells : Spells glued ls s)
    (blank : ∀ c ∈ trail, isBlank c) : Text.trim (s ++ trail) = Text.dropBlanks s := by
  obtain ⟨gap, same, before, core, visible⟩ := spells.dropBlanks
  have trimmed := trim_append before blank visible core.final
  rwa [← same] at trimmed

/-- A text between two separators is one part, and without the blanks around
it spells the same. -/
theorem part {separator : Char} (mark : separator ∈ marks) {glued : Bool} {ls : List Lexeme}
    {s trail : List Char} (spells : Spells glued ls s) (some : ls ≠ [])
    (absent : .mark separator ∉ ls) (blank : ∀ c ∈ trail, isBlank c) :
    separator ∉ s ++ trail ∧ Text.trim (s ++ trail) ≠ [] ∧
      Spells false ls (Text.trim (s ++ trail)) := by
  have visible := isBlank_of_mem_marks mark
  obtain ⟨_, _, _, core, _⟩ := spells.dropBlanks
  rw [spells.trim blank]
  refine ⟨?_, core.ne_nil some, core⟩
  rw [List.mem_append, not_or]
  exact ⟨spells.not_mem visible (isWord_of_mem_marks mark) absent,
    fun member => Bool.false_ne_true (visible.symm.trans (blank _ member))⟩

/-- Where no word stands before the next lexeme, a mark does. -/
theorem final_of_not_glues {glued : Bool} {ls : List Lexeme} {s : List Char}
    (spells : Spells glued ls s) (some : ls ≠ []) (marked : glues glued ls = false) :
    ∃ c before, .mark c ∈ ls ∧ s = before ++ [c] := by
  induction spells with
  | nil => exact absurd rfl some
  | @word _ gap w ls s _ _ _ _ _ ih =>
    by_cases last : ls = []
    · subst last
      cases marked
    · obtain ⟨c, before, member, rfl⟩ := ih last marked
      exact ⟨c, gap ++ (w ++ before), List.mem_cons_of_mem _ member, by simp⟩
  | @mark _ gap d ls s _ _ rest ih =>
    by_cases last : ls = []
    · subst last
      cases rest
      exact ⟨d, gap, List.mem_cons_self, rfl⟩
    · obtain ⟨c, before, member, rfl⟩ := ih last marked
      exact ⟨c, gap ++ d :: before, List.mem_cons_of_mem _ member, by simp⟩

end Spells

/-- `Spells` as it is computed. -/
def spells? : (glued : Bool) → List Lexeme → List Char → Bool
  | _, [], s => s = []
  | glued, .word w :: ls, s =>
    (!glued || startsWith isBlank s) && w ≠ [] && w.all isWord &&
      match dropText? w (dropBlanks s) with
      | some rest => spells? true ls rest
      | none => false
  | _, .mark c :: ls, s =>
    marks.contains c &&
      match dropText? [c] (dropBlanks s) with
      | some rest => spells? false ls rest
      | none => false

theorem spells?_iff {glued : Bool} {ls : List Lexeme} {s : List Char} :
    spells? glued ls s ↔ Spells glued ls s := by
  constructor
  · intro computed
    induction ls generalizing glued s with
    | nil =>
      cases of_decide_eq_true computed
      exact .nil
    | cons l ls ih =>
      have whole : s = s.takeWhile isBlank ++ dropBlanks s := (List.takeWhile_append_dropWhile).symm
      cases l with
      | word w =>
        simp only [spells?, Bool.and_eq_true, decide_eq_true_eq, List.all_eq_true] at computed
        obtain ⟨⟨⟨apart, some⟩, words⟩, rest⟩ := computed
        split at rest
        · rename_i rest' dropped
          rw [whole, dropText?_eq_some_iff.mp dropped]
          refine .word (fun _ => List.mem_takeWhile_imp) ?_ some words (ih rest)
          rintro rfl
          cases s with
          | nil => cases apart
          | cons c s => rw [List.takeWhile_cons_of_pos (by simpa [startsWith] using apart)]; simp
        · cases rest
      | mark c =>
        simp only [spells?, Bool.and_eq_true, List.contains_iff_mem] at computed
        obtain ⟨mark, rest⟩ := computed
        split at rest
        · rename_i rest' dropped
          rw [whole, dropText?_eq_some_iff.mp dropped]
          exact .mark (fun _ => List.mem_takeWhile_imp) mark (ih rest)
        · cases rest
  · intro spells
    induction spells with
    | nil => rfl
    | @word glued gap w ls s blank apart some words _ ih =>
      have separate : (!glued || startsWith isBlank (gap ++ (w ++ s))) = true := by
        cases glued with
        | false => rfl
        | true =>
          rw [startsWith_append (apart rfl)]
          exact startsWith_of_mem blank (apart rfl)
      rw [spells?, separate, dropBlanks_word blank some words, dropText?_eq_some_iff.mpr rfl]
      simpa [some] using ⟨words, ih⟩
    | @mark glued gap c ls s blank mark _ ih =>
      have read : dropText? [c] (c :: s) = .some s := dropText?_eq_some_iff.mpr rfl
      rw [spells?, dropBlanks_mark blank mark, read]
      simpa [mark] using ih

instance {glued : Bool} {ls : List Lexeme} {s : List Char} : Decidable (Spells glued ls s) :=
  decidable_of_iff _ spells?_iff

end HeaderTypes.Written
