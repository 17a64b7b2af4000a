import HeaderTypes.Proofs.Text.Parts
import Mathlib.Data.List.Forall2

namespace HeaderTypes.Text

/-- Two texts that differ in nothing but the length and the kind of their blanks: where one has
some, the other has some too. -/
inductive Respaced : List Char → List Char → Prop
  | nil : Respaced [] []
  | visible {c s t} : isBlank c = false → Respaced s t → Respaced (c :: s) (c :: t)
  | gap {a b s t} : a ≠ [] → b ≠ [] → (∀ c ∈ a, isBlank c) → (∀ c ∈ b, isBlank c) →
      Respaced s t → Respaced (a ++ s) (b ++ t)

theorem splitOn_ne_nil (separator : Char) (s : List Char) : splitOn separator s ≠ [] := by
  cases s with
  | nil => exact List.cons_ne_nil _ _
  | cons c s =>
    rw [splitOn]
    split
    · exact List.cons_ne_nil _ _
    · split <;> exact List.cons_ne_nil _ _

/-- What stands before the first separator belongs to the first part. -/
theorem splitOn_append_first {separator : Char} {a s part : List Char} {parts : List (List Char)}
    (absent : separator ∉ a) (split : splitOn separator s = part :: parts) :
    splitOn separator (a ++ s) = (a ++ part) :: parts := by
  induction a with
  | nil => exact split
  | cons c a ih =>
    obtain ⟨other, rest⟩ := not_or.mp (mt List.mem_cons.mpr absent)
    rw [List.cons_append, splitOn, if_neg (Ne.symm other), ih rest]
    rfl

namespace Respaced
variable {s t : List Char}

theorem symm (respaced : Respaced s t) : Respaced t s := by
  induction respaced with
  | nil => exact .nil
  | visible dark _ ih => exact .visible dark ih
  | gap some some' blank blank' _ ih => exact .gap some' some blank' blank ih

theorem refl (s : List Char) : Respaced s s := by
  induction s with
  | nil => exact .nil
  | cons c s ih =>
    by_cases blank : isBlank c
    · have single : ∀ d ∈ [c], isBlank d := List.forall_mem_singleton.mpr blank
      exact .gap (List.cons_ne_nil c []) (List.cons_ne_nil c []) single single ih
    · exact .visible (Bool.eq_false_iff.mpr blank) ih

theorem append {s' t' : List Char} (respaced : Respaced s t) (respaced' : Respaced s' t') :
    Respaced (s ++ s') (t ++ t') := by
  induction respaced with
  | nil => exact respaced'
  | visible dark _ ih => exact .visible dark ih
  | gap some some' blank blank' _ ih =>
    rw [List.append_assoc, List.append_assoc]
    exact .gap some some' blank blank' ih

theorem reverse (respaced : Respaced s t) : Respaced s.reverse t.reverse := by
  induction respaced with
  | nil => exact .nil
  | @visible c s t dark _ ih =>
    rw [List.reverse_cons, List.reverse_cons]
    exact ih.append (.visible dark .nil)
  | @gap a b s t some some' blank blank' _ ih =>
    have final : Respaced (a.reverse ++ []) (b.reverse ++ []) :=
      .gap (by simpa using some) (by simpa using some')
        (fun c member => blank c (List.mem_reverse.mp member))
        (fun c member => blank' c (List.mem_reverse.mp member)) .nil
    rw [List.append_nil, List.append_nil] at final
    rw [List.reverse_append, List.reverse_append]
    exact ih.append final

theorem eq_nil (respaced : Respaced [] t) : t = [] := by
  generalize empty : ([] : List Char) = s at respaced
  cases respaced with
  | nil => rfl
  | visible => cases empty
  | gap some => exact absurd (List.append_eq_nil_iff.mp empty.symm).1 some

/-- A visible character stands at the same place in both texts. -/
theorem exists_cons {c : Char} (dark : isBlank c = false) (respaced : Respaced (c :: s) t) :
    ∃ rest, t = c :: rest ∧ Respaced s rest := by
  generalize same : c :: s = whole at respaced
  cases respaced with
  | nil => cases same
  | visible _ rest =>
    cases same
    exact ⟨_, rfl, rest⟩
  | @gap a _ _ _ some _ blank _ _ =>
    cases a with
    | nil => exact absurd rfl some
    | cons d a =>
      cases same
      exact absurd (blank c List.mem_cons_self) (Bool.eq_false_iff.mp dark)

/-- Texts without blanks that are respaced are equal. -/
theorem eq_of_visible (respaced : Respaced s t) (visible : ∀ c ∈ s, isBlank c = false) : s = t := by
  induction respaced with
  | nil => rfl
  | visible _ _ ih => rw [ih fun c member => visible c (List.mem_cons_of_mem _ member)]
  | @gap a _ _ _ some _ blank _ _ =>
    cases a with
    | nil => exact absurd rfl some
    | cons c a =>
      have dark := visible c List.mem_cons_self
      exact absurd (blank c List.mem_cons_self) (Bool.eq_false_iff.mp dark)

theorem dropBlanks (respaced : Respaced s t) : Respaced (dropBlanks s) (dropBlanks t) := by
  induction respaced with
  | nil => exact .nil
  | @visible c s t dark rest _ =>
    rw [dropBlanks_of_visible (s := c :: s) dark, dropBlanks_of_visible (s := c :: t) dark]
    exact .visible dark rest
  | gap _ _ blank blank' _ ih =>
    rw [dropBlanks_append blank, dropBlanks_append blank']
    exact ih

theorem trim (respaced : Respaced s t) : Respaced (trim s) (trim t) :=
  respaced.dropBlanks.reverse.dropBlanks.reverse

section
variable {kind : Char → Bool} (none : ∀ c, isBlank c → kind c = false)
include none

/-- Texts begin with the same characters of a kind that no blank is of. -/
theorem takeWhile (respaced : Respaced s t) :
    s.takeWhile kind = t.takeWhile kind ∧ Respaced (s.dropWhile kind) (t.dropWhile kind) := by
  have stop {a s : List Char} (some : a ≠ []) (blank : ∀ c ∈ a, isBlank c) :
      startsWith kind (a ++ s) = false := by
    rw [startsWith_append some]
    exact startsWith_false_of_blank none (Or.inr (startsWith_of_mem blank some))
  have taken {s : List Char} (stop : startsWith kind s = false) :
      s.takeWhile kind = [] ∧ s.dropWhile kind = s :=
    ⟨takeWhile_append_stop (a := []) nofun stop, dropWhile_append_stop (a := []) nofun stop⟩
  induction respaced with
  | nil => exact ⟨rfl, .nil⟩
  | @visible c s t dark rest ih =>
    by_cases kept : kind c
    · rw [List.takeWhile_cons_of_pos kept, List.takeWhile_cons_of_pos kept,
        List.dropWhile_cons_of_pos kept, List.dropWhile_cons_of_pos kept, ih.1]
      exact ⟨rfl, ih.2⟩
    · rw [List.takeWhile_cons_of_neg kept, List.takeWhile_cons_of_neg kept,
        List.dropWhile_cons_of_neg kept, List.dropWhile_cons_of_neg kept]
      exact ⟨rfl, .visible dark rest⟩
  | gap some some' blank blank' rest _ =>
    obtain ⟨empty, whole⟩ := taken (stop some blank)
    obtain ⟨empty', whole'⟩ := taken (stop some' blank')
    rw [empty, whole, empty', whole']
    exact ⟨rfl, .gap some some' blank blank' rest⟩

end

/-- Parts between visible separators are respaced one by one. -/
theorem splitOn {separator : Char} (dark : isBlank separator = false) (respaced : Respaced s t) :
    List.Forall₂ Respaced (splitOn separator s) (splitOn separator t) := by
  have absent {a : List Char} (blank : ∀ c ∈ a, isBlank c) : separator ∉ a := fun member =>
    Bool.false_ne_true (dark.symm.trans (blank separator member))
  induction respaced with
  | nil => exact .cons .nil .nil
  | @visible c s t seen _ ih =>
    by_cases here : c = separator
    · rw [Text.splitOn, if_pos here, Text.splitOn, if_pos here]
      exact .cons .nil ih
    · obtain ⟨part, parts, split⟩ := List.exists_cons_of_ne_nil (splitOn_ne_nil separator s)
      obtain ⟨part', parts', split'⟩ := List.exists_cons_of_ne_nil (splitOn_ne_nil separator t)
      have other : separator ∉ [c] := by simpa using Ne.symm here
      rw [split, split'] at ih
      rw [← List.singleton_append, splitOn_append_first other split,
        ← List.singleton_append (l := t), splitOn_append_first other split']
      cases ih with
      | cons first rest => exact .cons (.visible seen first) rest
  | @gap a b s t some some' blank blank' _ ih =>
    obtain ⟨part, parts, split⟩ := List.exists_cons_of_ne_nil (splitOn_ne_nil separator s)
    obtain ⟨part', parts', split'⟩ := List.exists_cons_of_ne_nil (splitOn_ne_nil separator t)
    rw [split, split'] at ih
    rw [splitOn_append_first (absent blank) split, splitOn_append_first (absent blank') split']
    cases ih with
    | cons first rest => exact .cons (.gap some some' blank blank' first) rest

theorem trimmedParts {separator : Char} (dark : isBlank separator = false)
    (respaced : Respaced s t) :
    List.Forall₂ Respaced (trimmedParts separator s) (trimmedParts separator t) := by
  refine List.rel_filter (fun part part' same => ?_)
    (List.rel_map (fun part part' same => same.trim) (respaced.splitOn dark))
  have empty : part = [] ↔ part' = [] := by
    constructor
    · rintro rfl
      exact same.eq_nil
    · rintro rfl
      exact same.symm.eq_nil
  simp only [decide_eq_true_eq]
  exact not_congr empty

end Respaced

end HeaderTypes.Text
