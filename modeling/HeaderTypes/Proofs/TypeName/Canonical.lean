import HeaderTypes.Proofs.Text.Words

namespace HeaderTypes.TypeName
open Text

/-- Another star comes next, with blanks before it or not. -/
def starNext (s : List Char) : Bool := startsWith (· = '*') (dropBlanks s)

theorem starNext_of_blank {c : Char} (blank : isBlank c) (s : List Char) :
    starNext (c :: s) = starNext s := by
  simp [starNext, dropBlanks, List.dropWhile_cons_of_pos blank]

theorem starNext_of_visible {c : Char} (visible : isBlank c = false) (s : List Char) :
    starNext (c :: s) = decide (c = '*') := by
  simp [starNext, dropBlanks_of_visible (s := c :: s) visible, startsWith]

theorem starNext_iff {s : List Char} : starNext s ↔ ∃ rest, dropBlanks s = '*' :: rest := by
  unfold starNext
  cases dropBlanks s with
  | nil => simp [startsWith]
  | cons c rest => simp [startsWith]

theorem readStars_of_starNext {s : List Char} (next : starNext s = false) :
    readStars s = (0, s) := by
  rw [readStars]
  split
  · rename_i rest same
    exact absurd (starNext_iff.mpr ⟨rest, same⟩) (by simp [next])
  · rfl

theorem readStars_of_dropBlanks {s rest : List Char} (star : dropBlanks s = '*' :: rest) :
    readStars s = ((readStars rest).1 + 1, (readStars rest).2) := by
  rw [readStars]
  split
  · rename_i same
    cases star.symm.trans same
    rfl
  · rename_i other
    exact absurd star (other rest)

/-- Behind a run of stars stands no other star. -/
theorem starNext_readStars (s : List Char) : starNext (readStars s).2 = false := by
  fun_induction readStars s with
  | case1 s rest same shorter run ih => exact ih
  | case2 s other =>
    refine Bool.eq_false_iff.mpr fun next => ?_
    obtain ⟨rest, same⟩ := starNext_iff.mp next
    exact other rest same

theorem tokens_of_blank {c : Char} (blank : isBlank c) (s : List Char) :
    tokens (c :: s) = tokens s := by
  rw [tokens, if_pos blank]

theorem tokens_append_of_blank {gap : List Char} (blank : ∀ c ∈ gap, isBlank c) (s : List Char) :
    tokens (gap ++ s) = tokens s := by
  induction gap with
  | nil => rfl
  | cons c gap ih =>
    rw [List.cons_append, tokens_of_blank (blank c List.mem_cons_self), ih]
    exact fun d member => blank d (List.mem_cons_of_mem _ member)

theorem tokens_star (s : List Char) :
    tokens ('*' :: s) =
      (List.replicate ((readStars s).1 + 1) '*' ++ clinging (readStars s).2) ::
        tokens ((readStars s).2.drop (clinging (readStars s).2).length) := by
  rw [tokens, if_neg (by decide), if_pos rfl]

/-- A run of plain characters that ends before a blank, a star or nothing is a token. -/
theorem tokens_plain {t s : List Char} (some : t ≠ []) (plain : ∀ c ∈ t, isPlain c)
    (stop : startsWith isPlain s = false) : tokens (t ++ s) = t :: tokens s := by
  cases t with
  | nil => exact absurd rfl some
  | cons c t =>
    have first := isPlain_iff.mp (plain c List.mem_cons_self)
    have others : ∀ d ∈ t, isPlain d := fun d member => plain d (List.mem_cons_of_mem _ member)
    rw [List.cons_append, tokens, if_neg (by simp [first.1]), if_neg first.2,
      takeWhile_append_stop others stop, dropWhile_append_stop others stop]

/-- The characters that cling to a star are plain, and no word begins with them. -/
def Clings : List Char → Prop
  | [] => True
  | c :: s => isWord c = false ∧ ∀ d ∈ c :: s, isPlain d

theorem clinging_clings (s : List Char) : Clings (clinging s) := by
  cases s with
  | nil => exact trivial
  | cons c s =>
    by_cases head : isPlain c && !isWord c
    · simp only [clinging, if_pos head]
      simp only [Bool.and_eq_true, Bool.not_eq_true'] at head
      refine ⟨head.2, fun d member => ?_⟩
      rcases List.mem_cons.mp member with rfl | later
      · exact head.1
      · exact List.mem_takeWhile_imp later
    · simp only [clinging, if_neg head]
      exact trivial

theorem clinging_append {t s : List Char} (clings : Clings t) (stop : startsWith isPlain s = false) :
    clinging (t ++ s) = t := by
  cases t with
  | nil =>
    cases s with
    | nil => rfl
    | cons c s => simp [clinging, show isPlain c = false from stop]
  | cons c t =>
    have others : ∀ d ∈ t, isPlain d := fun d member => clings.2 d (List.mem_cons_of_mem _ member)
    simp [clinging, clings.1, clings.2 c List.mem_cons_self, takeWhile_append_stop others stop]

/-- Token lists that the reader can give: after a run of stars to which nothing
clings comes no other run of stars, since the two would be one. -/
inductive Settled : List (List Char) → Prop
  | nil : Settled []
  | plain {t ts} : t ≠ [] → (∀ c ∈ t, isPlain c) → Settled ts → Settled (t :: ts)
  | stars {more t ts} : Clings t → (t = [] → starNext ([' '].intercalate ts) = false) →
      Settled ts → Settled ((List.replicate (more + 1) '*' ++ t) :: ts)

/-- What follows the first of several tokens in their spelling. -/
theorem intercalate_cons_spec (t : List Char) (ts : List (List Char)) :
    ∃ tail, [' '].intercalate (t :: ts) = t ++ tail ∧ startsWith isPlain tail = false ∧
      tokens tail = tokens ([' '].intercalate ts) ∧
      starNext tail = starNext ([' '].intercalate ts) := by
  cases ts with
  | nil => exact ⟨[], by simp, rfl, rfl, rfl⟩
  | cons u ts =>
    refine ⟨' ' :: [' '].intercalate (u :: ts), ?_, rfl, ?_, ?_⟩
    · rw [List.intercalate_cons_cons, List.append_assoc, List.singleton_append]
    · exact tokens_of_blank rfl _
    · exact starNext_of_blank rfl _

theorem starNext_spelling (s : List Char) : starNext (spelling s) = starNext s := by
  unfold spelling
  induction s with
  | nil => rw [tokens]; rfl
  | cons c s ih =>
    by_cases blank : isBlank c
    · rw [tokens_of_blank blank, starNext_of_blank blank, ih]
    · have visible := Bool.eq_false_iff.mpr blank
      -- whatever the first token is, it begins with `c`
      have first : ∃ t ts, tokens (c :: s) = (c :: t) :: ts := by
        by_cases star : c = '*'
        · subst star
          exact ⟨_, _, tokens_star s⟩
        · rw [tokens, if_neg blank, if_neg star]
          exact ⟨_, _, rfl⟩
      obtain ⟨t, ts, same⟩ := first
      obtain ⟨tail, spelled, _⟩ := intercalate_cons_spec (c :: t) ts
      rw [same, spelled, List.cons_append, starNext_of_visible visible, starNext_of_visible visible]

theorem tokens_settled (s : List Char) : Settled (tokens s) := by
  fun_induction tokens s with
  | case1 => exact .nil
  | case2 c s blank ih => exact ih
  | case3 s run visible ih =>
    refine .stars (clinging_clings _) ?_ ih
    intro bare
    rw [bare, List.length_nil, List.drop_zero]
    exact (starNext_spelling run.2).trans (starNext_readStars s)
  | case4 c s visible other ih =>
    refine .plain (List.cons_ne_nil _ _) ?_ ih
    intro d member
    rcases List.mem_cons.mp member with rfl | later
    · exact isPlain_iff.mpr ⟨Bool.eq_false_iff.mpr visible, other⟩
    · exact List.mem_takeWhile_imp later

theorem readStars_replicate (count : Nat) {s : List Char} (next : starNext s = false) :
    readStars (List.replicate count '*' ++ s) = (count, s) := by
  induction count with
  | zero => exact readStars_of_starNext next
  | succ count ih =>
    rw [List.replicate_succ, List.cons_append, readStars_of_dropBlanks (dropBlanks_of_visible rfl), ih]

/-- Tokens with single spaces between them are read back as they are. -/
theorem tokens_intercalate {ts : List (List Char)} (settled : Settled ts) :
    tokens ([' '].intercalate ts) = ts := by
  induction settled with
  | nil => rw [List.intercalate_nil, tokens]
  | @plain t ts some plain _ ih =>
    obtain ⟨tail, spelled, stop, same, _⟩ := intercalate_cons_spec t ts
    rw [spelled, tokens_plain some plain stop, same, ih]
  | @stars more t ts clings bare _ ih =>
    obtain ⟨tail, spelled, stop, same, next⟩ :=
      intercalate_cons_spec (List.replicate (more + 1) '*' ++ t) ts
    have ends : starNext (t ++ tail) = false := by
      cases t with
      | nil => exact next.trans (bare rfl)
      | cons c t =>
        have head := isPlain_iff.mp (clings.2 c List.mem_cons_self)
        rw [List.cons_append, starNext_of_visible head.1, decide_eq_false head.2]
    rw [spelled, List.append_assoc, List.replicate_succ, List.cons_append, tokens_star,
      readStars_replicate more ends]
    simp only [clinging_append clings stop, List.drop_left, same, ih, List.replicate_succ,
      List.cons_append]

theorem spelling_spelling (s : List Char) : spelling (spelling s) = spelling s := by
  unfold spelling
  rw [tokens_intercalate (tokens_settled s)]

/-- A canonical spelling is its own canonical spelling. -/
theorem canonical_canonical (name : String) : canonical (canonical name) = canonical name := by
  simp only [canonical, String.toList_ofList, spelling_spelling]

theorem key_key (name : Loose) : key (key name) = key name := by
  simp only [key, Loose.mapText, canonical_canonical]

theorem spelling_of_plain {s : List Char} (some : s ≠ []) (plain : ∀ c ∈ s, isPlain c) :
    spelling s = s := by
  have whole := tokens_plain (s := []) some plain rfl
  rw [List.append_nil, tokens] at whole
  rw [spelling, whole, List.intercalate_singleton]

/-- A name is its own canonical spelling. -/
theorem canonical_of_isName {name : String} (named : isName name.toList) :
    canonical name = name := by
  have plain : ∀ c ∈ name.toList, isPlain c := fun c member =>
    isPlain_of_isWord (isWord_of_isName named c member)
  rw [canonical, spelling_of_plain (ne_nil_of_isName named) plain, String.ofList_toList]

theorem toList_ofSignature (struct field : String) :
    (ofSignature struct field).toList = struct.toList ++ '.' :: field.toList := by
  simp [ofSignature]

/-- The name of a signature is canonical, so that no spelling of it is lost. -/
theorem canonical_ofSignature {struct field : String} (owner : isName struct.toList)
    (named : isName field.toList) :
    canonical (ofSignature struct field) = ofSignature struct field := by
  have plain : ∀ c ∈ (ofSignature struct field).toList, isPlain c := by
    intro c member
    rw [toList_ofSignature] at member
    rcases List.mem_append.mp member with first | second
    · exact isPlain_of_isWord (isWord_of_isName owner c first)
    · rcases List.mem_cons.mp second with rfl | last
      · decide
      · exact isPlain_of_isWord (isWord_of_isName named c last)
  have some : (ofSignature struct field).toList ≠ [] := by simp [toList_ofSignature]
  rw [canonical, spelling_of_plain some plain, String.ofList_toList]

theorem ofSignature_inj {struct struct' field field' : String} (owner : isName struct.toList)
    (owner' : isName struct'.toList) (same : ofSignature struct field = ofSignature struct' field') :
    struct = struct' ∧ field = field' := by
  have dotless {name : String} (named : isName name.toList) : ∀ c ∈ name.toList, c ≠ '.' := by
    rintro c member rfl
    exact not_mem_of_isName named (by decide) member
  have lists := congrArg String.toList same
  rw [toList_ofSignature, toList_ofSignature] at lists
  have first := congrArg (List.takeWhile (· ≠ '.')) lists
  rw [List.takeWhile_append_of_pos (by simpa using dotless owner),
    List.takeWhile_append_of_pos (by simpa using dotless owner')] at first
  simp only [ne_eq, decide_not, List.takeWhile_cons, decide_true, Bool.not_true,
    Bool.false_eq_true, if_false, List.append_nil] at first
  rw [first, List.append_cancel_left_eq, List.cons.injEq] at lists
  exact ⟨String.toList_inj.mp first, String.toList_inj.mp lists.2⟩

/-- No name is that of a signature. -/
theorem ofSignature_ne_name {struct field name : String} (named : isName name.toList) :
    ofSignature struct field ≠ name := by
  rintro rfl
  refine not_mem_of_isName named (c := '.') (by decide) ?_
  simp [toList_ofSignature]

/-- A text without its blanks. -/
def visible (s : List Char) : List Char := s.filter fun c => !isBlank c

theorem visible_append (s t : List Char) : visible (s ++ t) = visible s ++ visible t :=
  List.filter_append s t

theorem visible_cons_of_blank {c : Char} (blank : isBlank c) (s : List Char) :
    visible (c :: s) = visible s :=
  List.filter_cons_of_neg (by simp [blank])

theorem visible_dropBlanks (s : List Char) : visible (dropBlanks s) = visible s := by
  induction s with
  | nil => rfl
  | cons c s ih =>
    by_cases blank : isBlank c
    · rw [dropBlanks, List.dropWhile_cons_of_pos blank, ← dropBlanks, ih, visible_cons_of_blank blank]
    · rw [dropBlanks, List.dropWhile_cons_of_neg blank]

theorem visible_readStars (s : List Char) :
    visible (List.replicate (readStars s).1 '*' ++ (readStars s).2) = visible s := by
  fun_induction readStars s with
  | case1 s rest same shorter run ih =>
    rw [List.replicate_succ, List.cons_append, ← List.singleton_append, visible_append, ih,
      ← visible_append, List.singleton_append, ← same, visible_dropBlanks]
  | case2 s _ => rfl

theorem clinging_begins (s : List Char) : clinging s <+: s := by
  cases s with
  | nil => exact List.prefix_rfl
  | cons c s =>
    rw [clinging]
    split
    · exact (List.prefix_cons_inj c).mpr (List.takeWhile_prefix _)
    · exact List.nil_prefix

/-- No token is lost, and none is split but at blanks. -/
theorem visible_flatten_tokens (s : List Char) : visible (tokens s).flatten = visible s := by
  fun_induction tokens s with
  | case1 => rfl
  | case2 c s blank ih => rw [ih, visible_cons_of_blank blank]
  | case3 s run seen ih =>
    have whole := List.prefix_iff_eq_append.mp (clinging_begins run.2)
    rw [List.flatten_cons, visible_append, ih, ← visible_append, List.append_assoc, whole,
      List.replicate_succ, List.cons_append, ← List.singleton_append, visible_append, visible_readStars,
      ← visible_append, List.singleton_append]
  | case4 c s seen other ih =>
    rw [List.flatten_cons, visible_append, ih, ← visible_append, List.cons_append,
      List.takeWhile_append_dropWhile]

theorem visible_intercalate (ts : List (List Char)) :
    visible ([' '].intercalate ts) = visible ts.flatten := by
  induction ts with
  | nil => rfl
  | cons t ts ih =>
    cases ts with
    | nil => simp
    | cons u ts =>
      rw [List.intercalate_cons_cons, List.append_assoc, visible_append, visible_append, ih]
      exact (visible_append t _).symm

theorem visible_spelling (s : List Char) : visible (spelling s) = visible s :=
  (visible_intercalate (tokens s)).trans (visible_flatten_tokens s)

theorem visible_of_isName {s : List Char} (named : isName s) : visible s = s :=
  List.filter_eq_self.mpr fun c member => by simp [isBlank_of_isWord (isWord_of_isName named c member)]

/-- However a struct is called, the signatures of its fields are told apart by their keys. -/
theorem canonical_ofSignature_inj {struct field field' : String} (named : isName field.toList)
    (named' : isName field'.toList)
    (same : canonical (ofSignature struct field) = canonical (ofSignature struct field')) :
    field = field' := by
  have lists : visible (ofSignature struct field).toList = visible (ofSignature struct field').toList := by
    rw [← visible_spelling, ← visible_spelling (ofSignature struct field').toList]
    exact congrArg visible (String.ofList_inj.mp same)
  rw [toList_ofSignature, toList_ofSignature, ← List.singleton_append, ← List.append_assoc,
    visible_append, visible_of_isName named, ← List.singleton_append (l := field'.toList),
    ← List.append_assoc, visible_append _ field'.toList, visible_of_isName named'] at lists
  exact String.toList_inj.mp (List.append_cancel_left lists)

end HeaderTypes.TypeName
