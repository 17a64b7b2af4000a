import HeaderTypes.TypeName
import Mathlib.Data.List.TakeWhile

namespace HeaderTypes.Text

theorem alphanumericRanges_apart_from_blankRanges :
    ∀ range ∈ alphanumericRanges, ∀ blank ∈ blankRanges,
      range.2 < blank.1 ∨ blank.2 < range.1 := by
  decide +kernel

theorem isAlphanum_bounds {c : Char} (alphanum : c.isAlphanum) :
    48 ≤ c.toNat ∧ c.toNat ≤ 57 ∨ 65 ≤ c.toNat ∧ c.toNat ≤ 90 ∨ 97 ≤ c.toNat ∧ c.toNat ≤ 122 := by
  rcases Bool.or_eq_true_iff.mp alphanum with alpha | digit
  · rcases Bool.or_eq_true_iff.mp alpha with upper | lower
    · obtain ⟨low, high⟩ := of_decide_eq_true upper
      exact Or.inr (Or.inl ⟨UInt32.le_iff_toNat_le.mp low, UInt32.le_iff_toNat_le.mp high⟩)
    · obtain ⟨low, high⟩ := Bool.and_eq_true_iff.mp lower
      exact Or.inr (Or.inr ⟨UInt32.le_iff_toNat_le.mp (of_decide_eq_true low),
        UInt32.le_iff_toNat_le.mp (of_decide_eq_true high)⟩)
  · obtain ⟨low, high⟩ := Bool.and_eq_true_iff.mp digit
    exact Or.inl ⟨UInt32.le_iff_toNat_le.mp (of_decide_eq_true low),
      UInt32.le_iff_toNat_le.mp (of_decide_eq_true high)⟩

/-- No table of letters holds a separator, so a word ends where a blank begins. -/
theorem isBlank_of_isWord {c : Char} (word : isWord c) : isBlank c = false := by
  unfold isWord at word
  split at word
  · have ascii : c.toNat = 95 ∨ c.isAlphanum := by
      rcases Bool.or_eq_true_iff.mp word with alphanum | score
      · exact Or.inr alphanum
      · exact Or.inl (by rw [of_decide_eq_true score]; rfl)
    have bounds := ascii.imp_right isAlphanum_bounds
    simp only [isBlank, Ranges.holds, Ranges.holdsPoint, blankRanges, List.any_cons, List.any_nil,
      Bool.or_eq_false_iff, Bool.and_eq_false_iff, decide_eq_false_iff_not, and_true]
    omega
  · obtain ⟨range, listed, within⟩ := List.any_eq_true.mp word
    refine Bool.eq_false_iff.mpr fun blank => ?_
    obtain ⟨gap, blanks, inside⟩ := List.any_eq_true.mp blank
    have apart := alphanumericRanges_apart_from_blankRanges range listed gap blanks
    simp only [Bool.and_eq_true, decide_eq_true_eq] at within inside
    omega

theorem isWord_of_isBlank {c : Char} (blank : isBlank c) : isWord c = false :=
  Bool.eq_false_iff.mpr fun word => Bool.false_ne_true ((isBlank_of_isWord word).symm.trans blank)

theorem isWord_of_isNameStart {c : Char} (start : isNameStart c) : isWord c := by
  rcases Bool.or_eq_true_iff.mp start with alpha | score
  · have alphanum : c.isAlphanum := Bool.or_eq_true_iff.mpr (Or.inl alpha)
    have bounds := isAlphanum_bounds alphanum
    simp [isWord, alphanum, show c.toNat < 128 by omega]
  · rw [of_decide_eq_true score]
    rfl

theorem isPlain_of_isWord {c : Char} (word : isWord c) : TypeName.isPlain c := by
  have star : c ≠ '*' := by
    rintro rfl
    exact absurd word (by decide)
  simp [TypeName.isPlain, isBlank_of_isWord word, star]

theorem isPlain_iff {c : Char} : TypeName.isPlain c ↔ isBlank c = false ∧ c ≠ '*' := by
  simp [TypeName.isPlain]

theorem isName_iff {s : List Char} :
    isName s ↔ ∃ c rest, s = c :: rest ∧ isNameStart c ∧ ∀ d ∈ rest, isWord d := by
  cases s with
  | nil => simp [isName]
  | cons c rest =>
    simp only [isName, Bool.and_eq_true, List.all_eq_true]
    constructor
    · intro name
      exact ⟨c, rest, rfl, name⟩
    · rintro ⟨first, others, same, name⟩
      cases same
      exact name

theorem isWord_of_isName {s : List Char} (named : isName s) : ∀ c ∈ s, isWord c := by
  obtain ⟨first, rest, rfl, start, words⟩ := isName_iff.mp named
  intro c member
  rcases List.mem_cons.mp member with rfl | later
  · exact isWord_of_isNameStart start
  · exact words c later

theorem ne_nil_of_isName {s : List Char} (named : isName s) : s ≠ [] := by
  obtain ⟨first, rest, rfl, _⟩ := isName_iff.mp named
  exact List.cons_ne_nil _ _

/-- A character that no word holds stands in no name. -/
theorem not_mem_of_isName {s : List Char} (named : isName s) {c : Char} (other : isWord c = false) :
    c ∉ s := by
  intro member
  exact Bool.false_ne_true (other.symm.trans (isWord_of_isName named c member))

theorem takeWhile_append_stop {kind : Char → Bool} {a b : List Char} (all : ∀ c ∈ a, kind c)
    (stop : startsWith kind b = false) : (a ++ b).takeWhile kind = a := by
  rw [List.takeWhile_append_of_pos all]
  cases b with
  | nil => simp
  | cons c b => simp [show kind c = false from stop]

theorem dropWhile_append_stop {kind : Char → Bool} {a b : List Char} (all : ∀ c ∈ a, kind c)
    (stop : startsWith kind b = false) : (a ++ b).dropWhile kind = b := by
  rw [List.dropWhile_append_of_pos all]
  cases b with
  | nil => simp
  | cons c b => simp [show kind c = false from stop]

theorem startsWith_dropWhile (kind : Char → Bool) (s : List Char) :
    startsWith kind (s.dropWhile kind) = false := by
  induction s with
  | nil => rfl
  | cons c s ih =>
    by_cases head : kind c
    · rw [List.dropWhile_cons_of_pos head, ih]
    · rw [List.dropWhile_cons_of_neg head]
      exact Bool.eq_false_iff.mpr head

/-- A text that begins with a blank or not at all begins with nothing else. -/
theorem startsWith_false_of_blank {kind : Char → Bool} {s : List Char}
    (visible : ∀ c, isBlank c → kind c = false) (blank : s = [] ∨ startsWith isBlank s) :
    startsWith kind s = false := by
  cases s with
  | nil => rfl
  | cons c s => exact visible c (by simpa [startsWith] using blank)

theorem dropBlanks_append {gap : List Char} (blank : ∀ c ∈ gap, isBlank c) (s : List Char) :
    dropBlanks (gap ++ s) = dropBlanks s :=
  List.dropWhile_append_of_pos blank

theorem dropBlanks_of_visible {s : List Char} (visible : startsWith isBlank s = false) :
    dropBlanks s = s := by
  cases s with
  | nil => rfl
  | cons c s => exact List.dropWhile_cons_of_neg (Bool.eq_false_iff.mp visible)

theorem readName?_isSome (s : List Char) : (readName? s).isSome = startsWith isNameStart s := by
  cases s with
  | nil => rfl
  | cons c s => simp only [readName?, startsWith]; split <;> simp [*]

/-- The longest name at the head of a text is a name, and no word character follows it. -/
theorem readName?_eq_some_iff {s name rest : List Char} :
    readName? s = some (name, rest) ↔
      s = name ++ rest ∧ isName name ∧ startsWith isWord rest = false := by
  constructor
  · intro read
    refine ⟨readName?_append read, ?_⟩
    cases s with
    | nil => simp [readName?] at read
    | cons c s =>
      simp only [readName?] at read
      split at read
      · rename_i start
        cases Option.some.inj read
        refine ⟨isName_iff.mpr ⟨c, _, rfl, start, ?_⟩, startsWith_dropWhile _ _⟩
        exact fun _ => List.mem_takeWhile_imp
      · simp at read
  · rintro ⟨rfl, named, stop⟩
    obtain ⟨c, tail, rfl, start, words⟩ := isName_iff.mp named
    simp [readName?, start, takeWhile_append_stop words stop, dropWhile_append_stop words stop]

end HeaderTypes.Text
