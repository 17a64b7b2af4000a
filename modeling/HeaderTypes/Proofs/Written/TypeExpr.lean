import HeaderTypes.Proofs.TypeName.Canonical
import HeaderTypes.Proofs.Written.Lexeme
import Mathlib.Data.List.Chain

namespace HeaderTypes.Written
open Text

/-- A token of a type expression. A run of stars has at least one. -/
inductive TypeToken
  | word (w : List Char)
  | stars (more : Nat)
  deriving DecidableEq

namespace TypeToken

def text : TypeToken → List Char
  | word w => w
  | stars more => List.replicate (more + 1) '*'

def lexemes : TypeToken → List Lexeme
  | word w => [.word w]
  | stars more => List.replicate (more + 1) (.mark '*')

/-- Two tokens may follow each other. Two runs of stars would be one. -/
def Apart : TypeToken → TypeToken → Prop
  | stars _, stars _ => False
  | _, _ => True

instance : DecidableRel Apart := fun t u =>
  match t, u with
  | stars _, stars _ => isFalse id
  | stars _, word _ => isTrue trivial
  | word _, _ => isTrue trivial

def IsWord : TypeToken → Prop
  | word w => w ≠ [] ∧ ∀ c ∈ w, Text.isWord c
  | stars _ => True

instance : DecidablePred IsWord := fun t =>
  match t with
  | word w => decidable_of_iff (w ≠ [] ∧ w.all Text.isWord) (by simp [IsWord])
  | stars _ => isTrue trivial

end TypeToken

/-- A type expression of words and stars. -/
structure TypeExpr where
  tokens : List TypeToken
  some : tokens ≠ []
  words : ∀ t ∈ tokens, t.IsWord
  apart : tokens.IsChain TypeToken.Apart

namespace TypeExpr

def lexemes (type : TypeExpr) : List Lexeme := type.tokens.flatMap (·.lexemes)

/-- The tokens with one space between two of them. -/
def name (type : TypeExpr) : String := String.ofList ([' '].intercalate (type.tokens.map (·.text)))

end TypeExpr

/-- Blanks and what follows them do not go on with a plain token. -/
theorem startsWith_isPlain_of_blank {s : List Char} (blank : ∀ c ∈ s, isBlank c) :
    startsWith TypeName.isPlain s = false := by
  cases s with
  | nil => rfl
  | cons c s => simp [startsWith, TypeName.isPlain, blank c List.mem_cons_self]

/-- Behind a word of a type expression its token ends. -/
theorem startsWith_isPlain_of_spells {ts : List TypeToken} {s trail : List Char}
    (spells : Spells true (ts.flatMap (·.lexemes)) s) (blank : ∀ c ∈ trail, isBlank c) :
    startsWith TypeName.isPlain (s ++ trail) = false := by
  cases ts with
  | nil =>
    cases spells with
    | nil => exact startsWith_isPlain_of_blank blank
  | cons t ts =>
    cases t with
    | word w =>
      cases spells with
      | word blank' apart _ _ _ =>
        rw [List.append_assoc, startsWith_append (apart rfl)]
        exact startsWith_isPlain_of_blank blank'
    | stars more =>
      cases spells with
      | @mark _ gap _ _ _ blank' _ _ =>
        cases gap with
        | nil => rfl
        | cons d gap => simp [startsWith, TypeName.isPlain, blank' d List.mem_cons_self]

/-- The next token, if there is one, is a word. -/
def WordNext (ts : List TypeToken) : Prop := ∀ t ∈ ts.head?, TypeToken.Apart (.stars 0) t

theorem wordNext_of_apart {more : Nat} {ts : List TypeToken}
    (apart : (TypeToken.stars more :: ts).IsChain TypeToken.Apart) : WordNext ts := by
  intro u head
  cases ts with
  | nil => cases head
  | cons v ts =>
    cases head
    cases u with
    | word w => exact trivial
    | stars _ => exact (List.isChain_cons_cons.mp apart).1

theorem isWord_next {ts : List TypeToken} (next : WordNext ts) {s trail : List Char}
    (spells : Spells false (ts.flatMap (·.lexemes)) s) (blank : ∀ c ∈ trail, isBlank c) :
    startsWith (fun c => !isWord c) (dropBlanks (s ++ trail)) = false := by
  cases ts with
  | nil =>
    cases spells with
    | nil => rw [List.nil_append, dropBlanks_of_blank blank]; rfl
  | cons t ts =>
    cases t with
    | word w =>
      cases spells with
      | @word _ gap w ls s blank' _ some words _ =>
        rw [List.append_assoc, List.append_assoc, dropBlanks_word blank' some words]
        cases w with
        | nil => exact absurd rfl some
        | cons c w => simp [startsWith, words c List.mem_cons_self]
    | stars more => exact absurd (next _ rfl) id

theorem starNext_of_isWord_next {s : List Char}
    (word : startsWith (fun c => !isWord c) (dropBlanks s) = false) : TypeName.starNext s = false := by
  refine Bool.eq_false_iff.mpr fun star => ?_
  obtain ⟨rest, same⟩ := TypeName.starNext_iff.mp star
  have other : isWord '*' = false := rfl
  simp [same, startsWith, other] at word

theorem clinging_of_isWord_next {s : List Char}
    (word : startsWith (fun c => !isWord c) (dropBlanks s) = false) : TypeName.clinging s = [] := by
  cases s with
  | nil => rfl
  | cons c s =>
    by_cases blank : isBlank c
    · simp [TypeName.clinging, TypeName.isPlain, blank]
    · rw [dropBlanks_of_visible (s := c :: s) (Bool.eq_false_iff.mpr blank)] at word
      have head : isWord c := by simpa [startsWith] using word
      simp [TypeName.clinging, head]

/-- A run of stars is read to its end, whatever blanks stand in it. -/
theorem readStars_of_spells {more : Nat} {ts : List TypeToken} (next : WordNext ts)
    {s trail : List Char}
    (spells : Spells false (List.replicate more (.mark '*') ++ ts.flatMap (·.lexemes)) s)
    (blank : ∀ c ∈ trail, isBlank c) :
    ∃ rest, TypeName.readStars (s ++ trail) = (more, rest ++ trail) ∧
      Spells false (ts.flatMap (·.lexemes)) rest := by
  induction more generalizing s with
  | zero =>
    have word := isWord_next next spells blank
    exact ⟨s, TypeName.readStars_of_starNext (starNext_of_isWord_next word), spells⟩
  | succ more ih =>
    cases spells with
    | @mark _ gap _ _ s blank' mark after =>
      obtain ⟨rest, read, spells⟩ := ih after
      have star : dropBlanks ((gap ++ '*' :: s) ++ trail) = '*' :: (s ++ trail) := by
        rw [List.append_assoc, dropBlanks_append blank', List.cons_append]
        exact dropBlanks_of_visible (s := '*' :: (s ++ trail)) rfl
      exact ⟨rest, by rw [TypeName.readStars_of_dropBlanks star, read], spells⟩

/-- A type expression is read as its tokens, however it is laid out. -/
theorem tokens_of_spells {ts : List TypeToken} (apart : ts.IsChain TypeToken.Apart) {glued : Bool}
    {s trail : List Char} (spells : Spells glued (ts.flatMap (·.lexemes)) s)
    (blank : ∀ c ∈ trail, isBlank c) : TypeName.tokens (s ++ trail) = ts.map (·.text) := by
  induction ts generalizing glued s with
  | nil =>
    cases spells with
    | nil =>
      have none := TypeName.tokens_append_of_blank blank []
      rwa [List.append_nil, TypeName.tokens] at none
  | cons t ts ih =>
    have others := apart.tail
    cases t with
    | word w =>
      cases spells with
      | @word _ gap _ _ s blank' _ some words rest =>
        have plain : ∀ c ∈ w, TypeName.isPlain c := fun c member => isPlain_of_isWord (words c member)
        have stop := startsWith_isPlain_of_spells rest blank
        rw [List.append_assoc, TypeName.tokens_append_of_blank blank', List.append_assoc,
          TypeName.tokens_plain some plain stop, ih others rest]
        rfl
    | stars more =>
      have next := wordNext_of_apart apart
      cases spells with
      | @mark _ gap _ _ s blank' mark after =>
        obtain ⟨rest, read, spells⟩ := readStars_of_spells next after blank
        -- only a plain token that touches the last star would cling to the run
        have bare := clinging_of_isWord_next (isWord_next next spells blank)
        rw [List.append_assoc, TypeName.tokens_append_of_blank blank', List.cons_append,
          TypeName.tokens_star, read]
        simp only [bare, List.append_nil, List.length_nil, List.drop_zero, ih others spells]
        rfl

theorem settled_of_apart {ts : List TypeToken} (words : ∀ t ∈ ts, t.IsWord)
    (apart : ts.IsChain TypeToken.Apart) : TypeName.Settled (ts.map (·.text)) := by
  induction ts with
  | nil => exact .nil
  | cons t ts ih =>
    obtain ⟨word, others⟩ := List.forall_mem_cons.mp words
    have rest := ih others apart.tail
    cases t with
    | word w => exact .plain word.1 (fun c member => isPlain_of_isWord (word.2 c member)) rest
    | stars more =>
      have bare : TypeName.starNext ([' '].intercalate (ts.map (·.text))) = false := by
        have next := wordNext_of_apart apart
        cases ts with
        | nil => rfl
        | cons u ts =>
          cases u with
          | stars _ => exact absurd (next _ rfl) id
          | word w =>
            obtain ⟨tail, spelled, _⟩ := TypeName.intercalate_cons_spec w (ts.map (·.text))
            have proper : w ≠ [] ∧ ∀ c ∈ w, isWord c := others _ List.mem_cons_self
            cases w with
            | nil => exact absurd rfl proper.1
            | cons c w =>
              have head := proper.2 c List.mem_cons_self
              have star : c ≠ '*' := (isPlain_iff.mp (isPlain_of_isWord head)).2
              rw [List.map_cons, TypeToken.text, spelled, List.cons_append,
                TypeName.starNext_of_visible (isBlank_of_isWord head), decide_eq_false star]
      have settled : TypeName.Settled ((List.replicate (more + 1) '*' ++ []) :: ts.map (·.text)) :=
        .stars trivial (fun _ => bare) rest
      rwa [List.append_nil] at settled

theorem mem_intercalate_space {parts : List (List Char)} {c : Char}
    (member : c ∈ [' '].intercalate parts) : c = ' ' ∨ ∃ part ∈ parts, c ∈ part := by
  induction parts with
  | nil => cases member
  | cons part parts ih =>
    cases parts with
    | nil =>
      rw [List.intercalate_singleton] at member
      exact Or.inr ⟨part, List.mem_cons_self, member⟩
    | cons next parts =>
      rw [List.intercalate_cons_cons, List.append_assoc, List.mem_append, List.mem_append] at member
      rcases member with here | space | later
      · exact Or.inr ⟨part, List.mem_cons_self, here⟩
      · exact Or.inl (List.mem_singleton.mp space)
      · exact (ih later).imp_right fun ⟨p, listed, held⟩ => ⟨p, List.mem_cons_of_mem _ listed, held⟩

namespace TypeExpr

theorem toList_name (type : TypeExpr) :
    type.name.toList = [' '].intercalate (type.tokens.map (·.text)) := by
  rw [name, String.toList_ofList]

theorem canonical_name (type : TypeExpr) : TypeName.canonical type.name = type.name := by
  rw [TypeName.canonical, TypeName.spelling, toList_name,
    TypeName.tokens_intercalate (settled_of_apart type.words type.apart)]
  rfl

theorem name_ne_empty (type : TypeExpr) : type.name ≠ "" := by
  intro empty
  have none := TypeName.tokens_intercalate (settled_of_apart type.words type.apart)
  rw [← toList_name, empty, String.toList_empty, TypeName.tokens] at none
  exact type.some (List.map_eq_nil_iff.mp none.symm)

/-- No type expression has the name of a signature. -/
theorem not_mem_name (type : TypeExpr) : '.' ∉ type.name.toList := by
  intro member
  rw [toList_name] at member
  rcases mem_intercalate_space member with same | ⟨part, listed, held⟩
  · cases same
  · obtain ⟨t, among, rfl⟩ := List.mem_map.mp listed
    have word := type.words t among
    cases t with
    | word w => exact absurd (word.2 _ held) (by decide)
    | stars more => cases List.eq_of_mem_replicate held

/-- Any layout of a type expression has its name for canonical spelling. -/
theorem spelling_of_spells (type : TypeExpr) {glued : Bool} {s trail : List Char}
    (spells : Spells glued type.lexemes s) (blank : ∀ c ∈ trail, isBlank c) :
    TypeName.spelling (s ++ trail) = type.name.toList := by
  rw [TypeName.spelling, tokens_of_spells type.apart spells blank, toList_name]

end TypeExpr

end HeaderTypes.Written
