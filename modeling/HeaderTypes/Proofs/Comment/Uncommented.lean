import HeaderTypes.Header.Comment
import HeaderTypes.Proofs.Text.Parts

namespace HeaderTypes.Comment
open Text

/-- A comment begins with a character that stands before a text. -/
def begins (c : Char) (s : List Char) : Bool :=
  c = '/' && startsWith (fun d => d = '/' || d = '*') s

/-- No comment begins anywhere in a text. -/
def uncommented : List Char → Bool
  | [] => true
  | c :: s => !begins c s && uncommented s

theorem begins_of_ne {c : Char} (other : c ≠ '/') (s : List Char) : begins c s = false := by
  simp [begins, other]

theorem not_line_of_begins {c : Char} {s : List Char} (none : begins c s = false) (t : List Char) :
    c = '/' → s = '/' :: t → False := by
  rintro rfl rfl
  cases none

theorem not_block_of_begins {c : Char} {s : List Char} (none : begins c s = false) (t : List Char) :
    c = '/' → s = '*' :: t → False := by
  rintro rfl rfl
  cases none

theorem begins_eq_false_iff {c : Char} {s : List Char} :
    begins c s = false ↔
      (∀ t, c = '/' → s = '/' :: t → False) ∧ ∀ t, c = '/' → s = '*' :: t → False := by
  refine ⟨fun none => ⟨not_line_of_begins none, not_block_of_begins none⟩, fun ⟨line, block⟩ => ?_⟩
  by_cases slash : c = '/'
  · cases s with
    | nil => rw [begins, startsWith, Bool.and_false]
    | cons d t =>
      have other : d ≠ '/' ∧ d ≠ '*' := by
        refine ⟨?_, ?_⟩ <;> rintro rfl
        · exact line t slash rfl
        · exact block t slash rfl
      simp [begins, startsWith, other.1, other.2]
  · exact begins_of_ne slash s

/-- What no comment goes on with keeps a text apart from what follows. -/
theorem begins_append {c d : Char} {a : List Char} (none : begins c a = false)
    (other : ¬(d = '/' || d = '*')) (s : List Char) : begins c (a ++ d :: s) = false := by
  cases a with
  | nil => simp [begins, startsWith, other]
  | cons e a => exact none

theorem uncommented_cons_iff {c : Char} {s : List Char} :
    uncommented (c :: s) ↔ begins c s = false ∧ uncommented s := by
  simp [uncommented]

theorem uncommented_of_suffix {t s : List Char} (tail : t <:+ s) (plain : uncommented s) :
    uncommented t := by
  obtain ⟨before, rfl⟩ := tail
  induction before with
  | nil => exact plain
  | cons c before ih => exact ih (uncommented_cons_iff.mp plain).2

theorem uncommented_of_prefix {t s : List Char} (head : t <+: s) (plain : uncommented s) :
    uncommented t := by
  obtain ⟨after, rfl⟩ := head
  induction t with
  | nil => rfl
  | cons c t ih =>
    obtain ⟨none, rest⟩ := uncommented_cons_iff.mp plain
    refine uncommented_cons_iff.mpr ⟨?_, ih rest⟩
    cases t with
    | nil => rw [begins, startsWith, Bool.and_false]
    | cons d t => exact none

theorem uncommented_append_of_not_mem {a s : List Char} (absent : '/' ∉ a) (plain : uncommented s) :
    uncommented (a ++ s) := by
  induction a with
  | nil => exact plain
  | cons c a ih =>
    obtain ⟨other, rest⟩ := not_or.mp (mt List.mem_cons.mpr absent)
    exact uncommented_cons_iff.mpr ⟨begins_of_ne (Ne.symm other) _, ih rest⟩

theorem uncommented_of_not_mem {s : List Char} (absent : '/' ∉ s) : uncommented s := by
  have plain : uncommented (s ++ []) := uncommented_append_of_not_mem absent rfl
  rwa [List.append_nil] at plain

theorem uncommented_append {a s : List Char} {d : Char} (plain : uncommented a)
    (other : ¬(d = '/' || d = '*')) (rest : uncommented (d :: s)) : uncommented (a ++ d :: s) := by
  induction a with
  | nil => exact rest
  | cons c a ih =>
    obtain ⟨none, later⟩ := uncommented_cons_iff.mp plain
    exact uncommented_cons_iff.mpr ⟨begins_append none other s, ih later⟩

theorem dropBlockComments_of_uncommented {s : List Char} (plain : uncommented s) :
    dropBlockComments s = s := by
  induction s with
  | nil => rw [dropBlockComments]
  | cons c s ih =>
    obtain ⟨none, rest⟩ := uncommented_cons_iff.mp plain
    rw [dropBlockComments, ih rest]
    exact not_block_of_begins none

theorem dropLineComments_of_uncommented {s : List Char} (plain : uncommented s) :
    dropLineComments s = s := by
  induction s with
  | nil => rw [dropLineComments]
  | cons c s ih =>
    obtain ⟨none, rest⟩ := uncommented_cons_iff.mp plain
    rw [dropLineComments, ih rest]
    exact not_line_of_begins none

theorem strip_of_uncommented {s : List Char} (plain : uncommented s) : strip s = s := by
  rw [strip, dropBlockComments_of_uncommented plain, dropLineComments_of_uncommented plain]

end HeaderTypes.Comment
