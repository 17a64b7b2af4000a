import HeaderTypes.Proofs.Header.Followed

namespace HeaderTypes
open Text

/-- A definition that cannot be read, a number of lines further down. -/
def MalformedBlock.below (lines : Nat) (block : MalformedBlock) : MalformedBlock :=
  { block with line := block.line + lines }

/-- What was found, a number of lines further down. -/
def Finding.below (lines : Nat) : Finding → Finding
  | .block definition => .block { definition with line := definition.line + lines }
  | .forward line => .forward (line + lines)
  | .malformed definition => .malformed (definition.below lines)

namespace Header

/-- At no line of a text is `typedef` all that is left of it, so that the word
could go on behind the end. The text begins a line or not. -/
def Settled : (atStart : Bool) → List Char → Prop
  | _, [] => True
  | atStart, c :: s =>
    (atStart = true → lastWord (c :: s) ≠ "typedef".toList) ∧ Settled (c = '\n') s

namespace Settled

theorem weaken {atStart : Bool} {s : List Char} (settled : Settled atStart s) : Settled false s := by
  cases s with
  | nil => trivial
  | cons c s => exact ⟨nofun, settled.2⟩

theorem of_suffix {atStart : Bool} {t s : List Char} (tail : t <:+ s) (settled : Settled atStart s) :
    Settled false t := by
  induction s generalizing atStart with
  | nil =>
    cases List.suffix_nil.mp tail
    trivial
  | cons c s ih =>
    rcases List.suffix_cons_iff.mp tail with rfl | tail
    · exact settled.weaken
    · exact ih tail settled.2

theorem of_append (before : List Char) {atStart : Bool} {s : List Char}
    (whole : lastWord (before ++ s) ≠ "typedef".toList)
    (start : atStart = true → startsWith (fun c => !isBlank c) before.reverse = false) :
    Settled atStart s := by
  induction s generalizing before atStart with
  | nil => trivial
  | cons c s ih =>
    refine ⟨fun begun same => ?_, ih (before ++ [c]) (by simpa using whole) fun newline => ?_⟩
    · rw [lastWord_append (by simp [same]) (start begun)] at whole
      exact whole same
    · cases of_decide_eq_true newline
      simp [startsWith, show isBlank '\n' from rfl]

end Settled

theorem settled_of_lastWord {s : List Char} (whole : lastWord s ≠ "typedef".toList) :
    Settled true s :=
  .of_append [] whole fun _ => rfl

/-- An opening in a text that more text follows. -/
def Opening.followed (opening : Opening) (more : List Char) : Opening :=
  { opening with start := opening.start ++ more, rest := opening.rest ++ more }

/-- The first definition opens in a text as if nothing followed it, and if none
opens there then in what follows, at the start of a line. -/
theorem nextOpening?_followed {s : List Char} (ended : s.getLast? = some '\n') {atStart : Bool}
    (settled : Settled atStart s) (line : Nat) (more : List Char) :
    nextOpening? line atStart (s ++ more) = ((nextOpening? line atStart s).map (·.followed more)).or
      (nextOpening? (line + s.count '\n') true more) := by
  induction s generalizing line atStart with
  | nil => cases ended
  | cons c s ih =>
    have here : (if atStart then opening? (c :: (s ++ more)) else none) =
        (if atStart then opening? (c :: s) else none).map (· ++ more) := by
      cases atStart with
      | false => rfl
      | true => exact opening?_followed ended (settled.1 rfl) more
    rw [List.cons_append, nextOpening?, nextOpening?, here]
    cases opens : (if atStart then opening? (c :: s) else none) with
    | some rest => rfl
    | none =>
      have inner (filled : s ≠ []) : s.getLast? = some '\n' := by
        rw [← ended, ← List.singleton_append, List.getLast?_append,
          Option.or_of_isSome (List.getLast?_isSome.mpr filled)]
      by_cases newline : c = '\n'
      · subst newline
        simp only [Option.map_none, if_true, List.count_cons_self]
        by_cases empty : s = []
        · subst empty
          rfl
        · have rest := settled.2
          rw [decide_eq_true rfl] at rest
          rw [ih (inner empty) rest, Nat.add_assoc, Nat.add_comm 1]
      · have filled : s ≠ [] := by
          rintro rfl
          exact newline (Option.some.inj ended)
        have rest := settled.2
        rw [decide_eq_false newline] at rest
        simp only [Option.map_none, newline, if_false, ih (inner filled) rest,
          List.count_cons_of_ne newline]

/-- An opening stands in the text in which it was found, on the line told. -/
theorem nextOpening?_some {line : Nat} {atStart : Bool} {s : List Char} {opening : Opening}
    (found : nextOpening? line atStart s = some opening) :
    opening.start <:+ s ∧ opening.rest <:+ opening.start ∧
      opening.line + opening.start.count '\n' = line + s.count '\n' := by
  induction s generalizing line atStart with
  | nil => cases found
  | cons c s ih =>
    rw [nextOpening?] at found
    split at found
    · rename_i opens
      cases Option.some.inj found
      split at opens
      · exact ⟨List.suffix_rfl, opening?_suffix opens, rfl⟩
      · cases opens
    · split at found
      · rename_i newline
        obtain ⟨tail, rest, counted⟩ := ih found
        refine ⟨tail.trans (List.suffix_cons c s), rest, ?_⟩
        rw [counted, newline, List.count_cons_self, Nat.add_assoc, Nat.add_comm 1]
      · rename_i other
        obtain ⟨tail, rest, counted⟩ := ih found
        exact ⟨tail.trans (List.suffix_cons c s), rest, by rw [counted, List.count_cons_of_ne other]⟩

/-- All that is found in whole lines is found as if nothing followed them. What
follows is searched as a text of its own that begins behind the last line. -/
theorem findingsFrom_followed {s : List Char} (lines : Lines s) {atStart : Bool}
    (settled : Settled atStart s) {line : Nat}
    (sound : ∀ block, .malformed block ∉ findingsFrom line atStart s) (more : List Char) :
    findingsFrom line atStart (s ++ more) =
      findingsFrom line atStart s ++ findingsFrom (line + s.count '\n') true more := by
  -- behind each definition the search goes on in a shorter text of whole lines
  induction size : s.length using Nat.strongRecOn generalizing s atStart line with
  | _ size ih =>
    have opens := nextOpening?_followed lines.ended settled line more
    cases found : nextOpening? line atStart s with
    | none =>
      rw [found, Option.map_none, Option.none_or] at opens
      rw [findingsFrom_of_none found, findingsFrom_congr opens, List.nil_append]
    | some opening =>
      rw [found, Option.map_some, Option.some_or] at opens
      obtain ⟨start, behind, counted⟩ := nextOpening?_some found
      cases read : readDefinition opening.line opening.rest with
      | error block =>
        rw [findingsFrom_of_error found read] at sound
        exact absurd List.mem_cons_self (sound block)
      | ok result =>
        obtain ⟨finding, rest⟩ := result
        have marked := readDefinition_suffix read
        have filled : opening.rest ≠ [] := by
          intro empty
          rw [empty] at marked
          cases List.suffix_nil.mp marked
        have inner := lines.of_suffix (behind.trans start) filled
        have tail := (List.suffix_cons ';' rest).trans (marked.trans behind)
        have read' : readDefinition (opening.followed more).line (opening.followed more).rest =
            .ok (finding, rest ++ more) := readDefinition_followed inner read more
        rw [findingsFrom_of_opening found read] at sound ⊢
        rw [findingsFrom_of_opening opens read']
        have shorter := nextOpening?_length_lt found
        have shorter' := readDefinition_length_le read
        have same : newlinesBefore (rest ++ more) (opening.followed more).start =
            newlinesBefore rest opening.start := by
          simp only [newlinesBefore, Opening.followed, List.count_append]
          omega
        have reached : opening.line + newlinesBefore rest opening.start + rest.count '\n' =
            line + s.count '\n' := by
          have fewer := tail.sublist.count_le '\n'
          rw [newlinesBefore]
          omega
        have onward := ih _ (by omega) (inner.of_mark (by decide) marked)
          (settled.of_suffix (tail.trans start)) (fun block => mt (List.mem_cons_of_mem _) (sound block)) rfl
        rw [same, List.cons_append, ← reached]
        exact congrArg (finding :: ·) onward

/-! The line on which a text stands decides nothing but the lines that are told. -/

theorem nextOpening?_below (lines line : Nat) (atStart : Bool) (s : List Char) :
    nextOpening? (line + lines) atStart s =
      (nextOpening? line atStart s).map fun o => { o with line := o.line + lines } := by
  induction s generalizing line atStart with
  | nil => rfl
  | cons c s ih =>
    rw [nextOpening?, nextOpening?]
    split
    · rfl
    · split
      · rw [Nat.add_right_comm, ih]
      · rw [ih]

theorem readDefinition_below (lines line : Nat) (s : List Char) :
    readDefinition (line + lines) s = ((readDefinition line s).map
      fun read => (read.1.below lines, read.2)).mapError (·.below lines) := by
  unfold readDefinition
  generalize readHead s = head
  obtain ⟨tag, after⟩ := head
  dsimp only
  split
  · rfl
  · split <;> rfl
  · split <;> rfl

theorem findingsFrom_below (lines line : Nat) (atStart : Bool) (s : List Char) :
    findingsFrom (line + lines) atStart s = (findingsFrom line atStart s).map (·.below lines) := by
  induction size : s.length using Nat.strongRecOn generalizing s atStart line with
  | _ size ih =>
    have opens := nextOpening?_below lines line atStart s
    cases found : nextOpening? line atStart s with
    | none =>
      rw [found] at opens
      rw [findingsFrom_of_none found, findingsFrom_of_none opens, List.map_nil]
    | some opening =>
      rw [found, Option.map_some] at opens
      have below := readDefinition_below lines opening.line opening.rest
      cases read : readDefinition opening.line opening.rest with
      | error block =>
        rw [read] at below
        rw [findingsFrom_of_error found read, findingsFrom_of_error opens below]
        rfl
      | ok result =>
        obtain ⟨finding, rest⟩ := result
        rw [read] at below
        have shorter := nextOpening?_length_lt found
        have shorter' : rest.length ≤ opening.rest.length := readDefinition_length_le read
        have onward := ih rest.length (by omega) (opening.line + newlinesBefore rest opening.start) false
          rest rfl
        rw [Nat.add_right_comm] at onward
        rw [findingsFrom_of_opening found read, findingsFrom_of_opening opens below]
        exact congrArg (finding.below lines :: ·) onward

/-- A header that ends with a line can be parted from what follows it, unless
its last word is `typedef` or a `/*` in it could reach further. -/
theorem findings_append {a b : String} (ended : a = "" ∨ a.toList.getLast? = some '\n')
    (plain : ¬ "/*".toList <:+: a.toList) (whole : lastWord a.toList ≠ "typedef".toList)
    (sound : ∀ block, .malformed block ∉ findings a) :
    findings (a ++ b) = findings a ++ (findings b).map (·.below (a.toList.count '\n')) := by
  rcases ended with rfl | ended
  · have none : findings "" = [] := findingsFrom_of_none rfl
    rw [String.empty_append, none, List.nil_append]
    exact findingsFrom_below 0 1 true b.toList
  · have parted := findingsFrom_followed ⟨ended, plain⟩ (settled_of_lastWord whole) sound b.toList
    rw [findingsFrom_below] at parted
    rw [findings, String.toList_append]
    exact parted

end Header

end HeaderTypes
