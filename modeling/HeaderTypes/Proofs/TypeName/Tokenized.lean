import HeaderTypes.Proofs.TypeName.Passes

namespace HeaderTypes.TypeName
open Text

/-- A text of words, stars and blanks. -/
def Wordy (s : List Char) : Prop := ∀ c ∈ s, isWord c ∨ c = '*' ∨ isBlank c

instance (s : List Char) : Decidable (Wordy s) :=
  List.decidableBAll (fun c => isWord c ∨ c = '*' ∨ isBlank c) s

/-- The tokens of a text, from left to right: words, each as long as it can be, and runs of stars,
each up to where another character comes that is no blank. -/
inductive Tokenized : List Char → List (List Char) → Prop
  | done {gap} : (∀ c ∈ gap, isBlank c) → Tokenized gap []
  | word {gap w s ts} : (∀ c ∈ gap, isBlank c) → w ≠ [] → (∀ c ∈ w, isWord c) →
      startsWith isWord s = false → Tokenized s ts → Tokenized (gap ++ (w ++ s)) (w :: ts)
  /-- Between the stars of a run there may be blanks, which are left out of the token. -/
  | stars {gap : List Char} {gaps : List (List Char)} {s ts} : (∀ c ∈ gap, isBlank c) →
      (∀ inner ∈ gaps, ∀ c ∈ inner, isBlank c) → starNext s = false → Tokenized s ts →
      Tokenized (gap ++ '*' :: (gaps.flatMap (· ++ ['*']) ++ s))
        (List.replicate (gaps.length + 1) '*' :: ts)

theorem Tokenized.blank {gap s : List Char} {ts : List (List Char)} (blank : ∀ c ∈ gap, isBlank c)
    (tokenized : Tokenized s ts) : Tokenized (gap ++ s) ts := by
  have longer {inner : List Char} (blank' : ∀ c ∈ inner, isBlank c) :
      ∀ c ∈ gap ++ inner, isBlank c :=
    List.forall_mem_append.mpr ⟨blank, blank'⟩
  cases tokenized with
  | done blank' => exact .done (longer blank')
  | word blank' some words stop rest =>
    rw [← List.append_assoc]
    exact .word (longer blank') some words stop rest
  | stars blank' inner stop rest =>
    rw [← List.append_assoc]
    exact .stars (longer blank') inner stop rest

/-- Nothing but words, stars and blanks is told apart. -/
theorem Tokenized.wordy {s : List Char} {ts : List (List Char)} (tokenized : Tokenized s ts) :
    Wordy s := by
  induction tokenized with
  | done blank => exact fun c member => Or.inr (Or.inr (blank c member))
  | word blank _ words _ _ ih =>
    refine List.forall_mem_append.mpr ⟨fun c member => Or.inr (Or.inr (blank c member)), ?_⟩
    exact List.forall_mem_append.mpr ⟨fun c member => Or.inl (words c member), ih⟩
  | stars blank inner _ _ ih =>
    refine List.forall_mem_append.mpr ⟨fun c member => Or.inr (Or.inr (blank c member)), ?_⟩
    refine List.forall_mem_cons.mpr ⟨Or.inr (Or.inl rfl), List.forall_mem_append.mpr ⟨?_, ih⟩⟩
    intro c member
    obtain ⟨gap, listed, held⟩ := List.mem_flatMap.mp member
    rcases List.mem_append.mp held with within | star
    · exact Or.inr (Or.inr (inner gap listed c within))
    · exact Or.inr (Or.inl (List.mem_singleton.mp star))

theorem Wordy.startsWith_isPlain {s : List Char} (wordy : Wordy s) :
    startsWith isPlain s = startsWith isWord s := by
  cases s with
  | nil => rfl
  | cons c s =>
    change isPlain c = isWord c
    rcases wordy c List.mem_cons_self with word | rfl | blank
    · rw [word, isPlain_of_isWord word]
    · rfl
    · rw [isWord_of_isBlank blank, isPlain, blank]
      rfl

theorem readStars_gaps {gaps : List (List Char)} (blank : ∀ inner ∈ gaps, ∀ c ∈ inner, isBlank c)
    {s : List Char} (stop : starNext s = false) :
    readStars (gaps.flatMap (· ++ ['*']) ++ s) = (gaps.length, s) := by
  induction gaps with
  | nil => exact readStars_of_starNext stop
  | cons gap gaps ih =>
    obtain ⟨first, others⟩ := List.forall_mem_cons.mp blank
    have next : dropBlanks ((gap :: gaps).flatMap (· ++ ['*']) ++ s) =
        '*' :: (gaps.flatMap (· ++ ['*']) ++ s) := by
      rw [List.flatMap_cons, List.append_assoc, List.append_assoc, dropBlanks_append first]
      exact dropBlanks_of_visible rfl
    rw [readStars_of_dropBlanks next, ih others]
    rfl

theorem exists_gaps (s : List Char) :
    ∃ gaps : List (List Char), (∀ inner ∈ gaps, ∀ c ∈ inner, isBlank c) ∧
      gaps.length = (readStars s).1 ∧ s = gaps.flatMap (· ++ ['*']) ++ (readStars s).2 := by
  fun_induction readStars s with
  | case1 s rest same shorter run ih =>
    obtain ⟨gaps, blank, count, split⟩ := ih
    have whole : s.takeWhile isBlank ++ dropBlanks s = s := List.takeWhile_append_dropWhile
    have first : ∀ c ∈ s.takeWhile isBlank, isBlank c := fun _ => List.mem_takeWhile_imp
    refine ⟨s.takeWhile isBlank :: gaps, List.forall_mem_cons.mpr ⟨first, blank⟩, ?_, ?_⟩
    · rw [List.length_cons, count]
    · rw [List.flatMap_cons, List.append_assoc, List.append_assoc, ← split, List.singleton_append,
        ← same, whole]
  | case2 s _ => exact ⟨[], List.forall_mem_nil _, rfl, rfl⟩

/-- The tokens of a text are those that are read. -/
theorem Tokenized.tokens_eq {s : List Char} {ts : List (List Char)} (tokenized : Tokenized s ts) :
    tokens s = ts := by
  induction tokenized with
  | done blank =>
    have none := tokens_append_of_blank blank []
    rwa [List.append_nil, tokens] at none
  | word blank some words stop rest ih =>
    have plain := fun c member => isPlain_of_isWord (words c member)
    rw [tokens_append_of_blank blank,
      tokens_plain some plain (rest.wordy.startsWith_isPlain.trans stop), ih]
  | @stars gap gaps s ts blank inner stop rest ih =>
    have bare : clinging s = [] := by
      cases s with
      | nil => rfl
      | cons c s =>
        have same : isPlain c = isWord c := rest.wordy.startsWith_isPlain
        simp [clinging, same]
    rw [tokens_append_of_blank blank, tokens_star, readStars_gaps inner stop]
    simp only [bare, List.append_nil, List.length_nil, List.drop_zero, ih]

/-- A text of words, stars and blanks has tokens. -/
theorem Wordy.tokenized {s : List Char} : Wordy s → Tokenized s (tokens s) := by
  have unspaced : ∀ c ∈ ([] : List Char), isBlank c := nofun
  fun_induction tokens s with
  | case1 => exact fun _ => .done nofun
  | case2 c s blank ih =>
    intro wordy
    have single : ∀ d ∈ [c], isBlank d := List.forall_mem_singleton.mpr blank
    exact (ih (List.forall_mem_cons.mp wordy).2).blank single
  | case3 s run seen ih =>
    intro wordy
    obtain ⟨gaps, blank, count, split⟩ := exists_gaps s
    have later : Wordy run.2 := fun c member =>
      wordy c (List.mem_cons_of_mem _ (split ▸ List.mem_append_right _ member))
    have bare : clinging run.2 = [] := by
      cases left : run.2 with
      | nil => rfl
      | cons c t =>
        rw [left] at later
        have same : isPlain c = isWord c := later.startsWith_isPlain
        simp [clinging, same]
    rw [bare, List.length_nil, List.drop_zero] at ih
    have whole := Tokenized.stars unspaced blank (starNext_readStars s) (ih later)
    rw [List.nil_append, ← split, count] at whole
    rw [bare, List.append_nil, List.length_nil, List.drop_zero]
    exact whole
  | case4 c s seen other ih =>
    intro wordy
    have dark := Bool.eq_false_iff.mpr seen
    have plain : ∀ d ∈ c :: s.takeWhile isPlain, isPlain d :=
      List.forall_mem_cons.mpr ⟨isPlain_iff.mpr ⟨dark, other⟩, fun _ => List.mem_takeWhile_imp⟩
    have whole : c :: s.takeWhile isPlain ++ s.dropWhile isPlain = c :: s := by
      rw [List.cons_append, List.takeWhile_append_dropWhile]
    have later : Wordy (s.dropWhile isPlain) := fun d member =>
      wordy d (whole ▸ List.mem_append_right _ member)
    have words : ∀ d ∈ c :: s.takeWhile isPlain, isWord d := by
      intro d member
      obtain ⟨visible, unstarred⟩ := isPlain_iff.mp (plain d member)
      rcases wordy d (whole ▸ List.mem_append_left _ member) with word | star | blank
      · exact word
      · exact absurd star unstarred
      · exact absurd blank (Bool.eq_false_iff.mp visible)
    have stop : startsWith isWord (s.dropWhile isPlain) = false :=
      later.startsWith_isPlain.symm.trans (startsWith_dropWhile _ _)
    have token := Tokenized.word unspaced (List.cons_ne_nil _ _) words stop (ih later)
    rwa [List.nil_append, whole] at token

theorem Wordy.spelling_inj {s t : List Char} (wordy : Wordy s) (wordy' : Wordy t) :
    spelling s = spelling t ↔ ∀ ts, Tokenized s ts ↔ Tokenized t ts := by
  constructor
  · intro same ts
    -- a spelling can be read back, so it tells the tokens
    have equal : tokens s = tokens t := by
      rw [← tokens_intercalate (tokens_settled s), ← tokens_intercalate (tokens_settled t)]
      exact congrArg tokens same
    constructor
    · intro tokenized
      rw [← tokenized.tokens_eq, equal]
      exact wordy'.tokenized
    · intro tokenized
      rw [← tokenized.tokens_eq, ← equal]
      exact wordy.tokenized
  · intro same
    have equal : tokens t = tokens s := ((same _).mp wordy.tokenized).tokens_eq
    rw [spelling, spelling, equal]

/-- The four passes over a name give its canonical spelling. A text of words, stars and blanks has
tokens in one way only, which the spelling joins by single spaces, and two such texts are spelled
alike exactly when they have the same tokens. -/
theorem canonical_tokenized :
    (∀ name : String, (canonical name).toList = rewritten name.toList) ∧
    (∀ name : String, Wordy name.toList →
      ∃ ts, Tokenized name.toList ts ∧ (∀ ts', Tokenized name.toList ts' → ts' = ts) ∧
        (canonical name).toList = [' '].intercalate ts ∧
        trim (canonical name).toList = (canonical name).toList) ∧
    ∀ name name' : String, Wordy name.toList → Wordy name'.toList →
      (canonical name = canonical name' ↔
        ∀ ts, Tokenized name.toList ts ↔ Tokenized name'.toList ts) := by
  have passes (name : String) : (canonical name).toList = rewritten name.toList := by
    rw [canonical, String.toList_ofList, spelling_eq_rewritten]
  refine ⟨passes, fun name wordy => ?_, fun name name' wordy wordy' => ?_⟩
  · refine ⟨tokens name.toList, wordy.tokenized, fun ts' other => other.tokens_eq.symm, ?_, ?_⟩
    · rw [canonical, String.toList_ofList, spelling]
    · rw [passes, rewritten, trim_trim]
  · rw [canonical, canonical, String.ofList_inj]
    exact wordy.spelling_inj wordy'

/-- Two layouts of one type. -/
theorem canonical_tokenized_spacedStars :
    Wordy "int* *\tconst p".toList ∧ Wordy " int **const  p".toList ∧
      canonical "int* *\tconst p" = canonical " int **const  p" := by
  have wordy : Wordy "int* *\tconst p".toList := by decide +kernel
  have wordy' : Wordy " int **const  p".toList := by decide +kernel
  have same : tokens "int* *\tconst p".toList = tokens " int **const  p".toList := by decide +kernel
  refine ⟨wordy, wordy', (canonical_tokenized.2.2 _ _ wordy wordy').mpr fun ts => ⟨?_, ?_⟩⟩
  · intro tokenized
    rw [← tokenized.tokens_eq, same]
    exact wordy'.tokenized
  · intro tokenized
    rw [← tokenized.tokens_eq, ← same]
    exact wordy.tokenized

end HeaderTypes.TypeName
