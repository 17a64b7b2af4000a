import HeaderTypes.Proofs.Header.Seam

namespace HeaderTypes
open Text

namespace Text

/-- A line of a text begins at a position. -/
def LineStart (text : List Char) (k : Nat) : Prop := k = 0 ∨ ∃ j, k = j + 1 ∧ text[j]? = some '\n'

/-- The line on which a position stands. -/
def lineOf (text : List Char) (k : Nat) : Nat := (text.take k).count '\n' + 1

theorem lineStart_succ_iff {text : List Char} {k : Nat} :
    LineStart text (k + 1) ↔ text[k]? = some '\n' := by
  constructor
  · rintro (none | ⟨j, same, newline⟩)
    · cases none
    · rwa [Nat.succ.inj same]
  · exact fun newline => Or.inr ⟨k, rfl, newline⟩

section
variable {text : List Char} {k : Nat}

theorem getElem?_of_drop {c : Char} {s : List Char} (same : text.drop k = c :: s) :
    text[k]? = some c := by
  have first : (text.drop k)[0]? = text[k + 0]? := List.getElem?_drop
  rw [same, Nat.add_zero] at first
  exact first.symm

theorem drop_succ_of_drop {c : Char} {s : List Char} (same : text.drop k = c :: s) :
    text.drop (k + 1) = s := by
  rw [← List.drop_drop, same]
  rfl

/-- A part that ends a text begins at the position that its length tells. -/
theorem drop_of_suffix {t : List Char} (tail : t <:+ text.drop k) :
    ∃ m, t = text.drop m ∧ k ≤ m ∧ (t ≠ [] → m < text.length) := by
  obtain ⟨before, same⟩ := tail
  refine ⟨k + before.length, ?_, Nat.le_add_right _ _, fun filled => ?_⟩
  · rw [← List.drop_drop, ← same, List.drop_left]
  · have lengths := congrArg List.length same
    have pos := List.length_pos_iff.mpr filled
    rw [List.length_append, List.length_drop] at lengths
    omega

theorem lineOf_succ_of_newline (newline : text[k]? = some '\n') :
    lineOf text (k + 1) = lineOf text k + 1 := by
  rw [lineOf, List.take_add_one, newline, List.count_append]
  rfl

theorem lineOf_mono {m : Nat} (le : k ≤ m) : lineOf text k ≤ lineOf text m := by
  have fewer : (text.take k).count '\n' ≤ (text.take m).count '\n' :=
    (List.take_prefix_take_left le).sublist.count_le _
  exact Nat.succ_le_succ fewer

/-- A line that begins behind a position comes after the line of that position. -/
theorem lineOf_lt {m : Nat} (lt : k < m) (begun : LineStart text m) : lineOf text k < lineOf text m := by
  rcases begun with rfl | ⟨j, rfl, newline⟩
  · cases lt
  · rw [lineOf_succ_of_newline newline]
    exact Nat.lt_succ_of_le (lineOf_mono (Nat.le_of_lt_succ lt))

theorem lineOf_add_count (text : List Char) (k : Nat) :
    lineOf text k + (text.drop k).count '\n' = text.count '\n' + 1 := by
  have whole := congrArg (List.count '\n') (List.take_append_drop k text)
  rw [List.count_append] at whole
  rw [lineOf, ← whole]
  omega

end

end Text

namespace Header

/-- A definition opens on the line that begins at a position. -/
def OpensAt (text : List Char) (k : Nat) : Prop :=
  LineStart text k ∧ (opening? (text.drop k)).isSome

/-- The first position from `k` on at which a definition opens is `m`. -/
def FirstOpening (text : List Char) (k m : Nat) : Prop :=
  k ≤ m ∧ OpensAt text m ∧ ∀ j, k ≤ j → j < m → ¬ OpensAt text j

/-- The search for the next opening leaves out no line that begins behind it, and it tells the line
of what it finds. -/
theorem nextOpening?_at {text : List Char} {k : Nat} {atStart : Bool}
    (begun : atStart = true ↔ LineStart text k) :
    (nextOpening? (lineOf text k) atStart (text.drop k) = none ∧ ∀ j, k ≤ j → ¬ OpensAt text j) ∨
      ∃ m rest, FirstOpening text k m ∧ opening? (text.drop m) = some rest ∧
        nextOpening? (lineOf text k) atStart (text.drop k) = some ⟨lineOf text m, text.drop m, rest⟩ := by
  generalize same : text.drop k = s
  induction s generalizing k atStart with
  | nil =>
    refine Or.inl ⟨rfl, fun j le opens => ?_⟩
    have none : text.drop j = [] := by
      rw [List.drop_eq_nil_iff] at same ⊢
      omega
    rw [OpensAt, none] at opens
    cases opens.2
  | cons c s ih =>
    have here := getElem?_of_drop same
    have later := drop_succ_of_drop same
    by_cases opens : OpensAt text k
    · obtain ⟨rest, read⟩ := Option.isSome_iff_exists.mp opens.2
      refine Or.inr ⟨k, rest, ⟨Nat.le_refl k, opens, fun j le lt => ?_⟩, read, ?_⟩
      · omega
      · rw [same] at read
        rw [begun.mpr opens.1, same]
        exact nextOpening?_of_opening? read _
    · have passed : (if atStart then opening? (c :: s) else none) = none := by
        cases atStart with
        | false => rfl
        | true =>
          rw [← same]
          exact Option.not_isSome_iff_eq_none.mp fun found => opens ⟨begun.mp rfl, found⟩
      have onward {j : Nat} (le : k ≤ j) : j = k ∨ k + 1 ≤ j := by omega
      have skipped : nextOpening? (lineOf text k) atStart (c :: s) =
          nextOpening? (lineOf text (k + 1)) (c = '\n') s := by
        rw [nextOpening?, passed]
        by_cases newline : c = '\n'
        · rw [if_pos newline, lineOf_succ_of_newline (newline ▸ here), decide_eq_true newline]
        · have kept : lineOf text (k + 1) = lineOf text k := by
            rw [lineOf, List.take_add_one, here, List.count_append]
            simp [lineOf, newline]
          rw [if_neg newline, kept, decide_eq_false newline]
      have begun' : (decide (c = '\n')) = true ↔ LineStart text (k + 1) := by
        rw [lineStart_succ_iff, here, decide_eq_true_iff, Option.some.injEq]
      rw [skipped]
      rcases ih begun' later with ⟨none, clear⟩ | ⟨m, rest, ⟨le, opens', clear⟩, read, found⟩
      · refine Or.inl ⟨none, fun j le => ?_⟩
        rcases onward le with rfl | further
        · exact opens
        · exact clear j further
      · refine Or.inr ⟨m, rest, ⟨Nat.le_of_succ_le le, opens', fun j le lt => ?_⟩, read, found⟩
        rcases onward le with rfl | further
        · exact opens
        · exact clear j further lt

/-- From the beginning of a line to a position there are only spaces and tabs, and the word `typedef`
stands there. -/
structure Keyword (text : List Char) (margin first : Nat) : Prop where
  le : margin ≤ first
  narrow : ∀ i, margin ≤ i → i < first → text[i]? = some ' ' ∨ text[i]? = some '\t'
  word : "typedef".toList <+: text.drop first

/-- What was found on the line that begins at the position `margin`. It reaches from its `typedef` at
`first` to before the position `stop`. -/
structure Site where
  margin : Nat
  first : Nat
  stop : Nat
  finding : Finding

/-- A definition was read at a site. -/
structure Site.Read (text : List Char) (site : Site) : Prop where
  begun : LineStart text site.margin
  keyword : Keyword text site.margin site.first
  read : ∃ rest, opening? (text.drop site.margin) = some rest ∧
    readDefinition (lineOf text site.margin) rest = .ok (site.finding, text.drop site.stop)
  lt : site.first < site.stop
  closed : text[site.stop - 1]? = some ';'

/-- A definition that cannot be read, on the line that begins at the position `margin`. -/
structure Broken where
  margin : Nat
  block : MalformedBlock

structure Broken.Refused (text : List Char) (broken : Broken) : Prop where
  begun : LineStart text broken.margin
  read : ∃ rest, opening? (text.drop broken.margin) = some rest ∧
    readDefinition (lineOf text broken.margin) rest = .error broken.block

/-- The sites of a text from a position on, each the first behind the one before it. They end with
the text or before a definition that cannot be read. -/
inductive Sites (text : List Char) : Nat → List Site → Option Broken → Prop
  | done {k} : (∀ j, k ≤ j → ¬ OpensAt text j) → Sites text k [] none
  | broken {k broken} : FirstOpening text k broken.margin → broken.Refused text →
      Sites text k [] (some broken)
  | found {k site sites broken} : FirstOpening text k site.margin → site.Read text →
      Sites text site.stop sites broken → Sites text k (site :: sites) broken

section
variable {text : List Char}

theorem exists_keyword {m : Nat} {rest : List Char} (opens : opening? (text.drop m) = some rest) :
    ∃ first, Keyword text m first ∧ rest <:+ text.drop (first + 1) := by
  obtain ⟨margin, gap, same, narrow, -, -, -⟩ := opening?_eq_some_iff.mp opens
  have behind : text.drop (m + margin.length) =
      "typedef".toList ++ (gap ++ ("struct".toList ++ rest)) := by
    rw [← List.drop_drop, same, List.drop_left]
  refine ⟨m + margin.length, ⟨Nat.le_add_right _ _, fun i le lt => ?_, ?_⟩, ?_⟩
  · obtain ⟨j, rfl⟩ := Nat.exists_eq_add_of_le le
    have inside : j < margin.length := by omega
    rw [← List.getElem?_drop, same, List.getElem?_append_left inside, List.getElem?_eq_getElem inside,
      Option.some.injEq, Option.some.injEq]
    simpa using narrow _ (List.getElem_mem inside)
  · exact ⟨_, behind.symm⟩
  · rw [← List.drop_drop, behind]
    exact ⟨"ypedef".toList ++ (gap ++ "struct".toList), by simp⟩

/-- What is read from an opening ends with a semicolon behind its keyword. -/
theorem exists_site {m : Nat} {rest after : List Char} {finding : Finding} (begun : LineStart text m)
    (opens : opening? (text.drop m) = some rest)
    (read : readDefinition (lineOf text m) rest = .ok (finding, after)) :
    ∃ first stop, Site.Read text ⟨m, first, stop, finding⟩ ∧ after = text.drop stop := by
  obtain ⟨first, keyword, tail⟩ := exists_keyword opens
  obtain ⟨j, same, le, -⟩ := drop_of_suffix ((readDefinition_suffix read).trans tail)
  have closed := getElem?_of_drop same.symm
  have later := drop_succ_of_drop same.symm
  refine ⟨first, j + 1, ⟨begun, keyword, ⟨rest, opens, later.symm ▸ read⟩, ?_, closed⟩, later.symm⟩
  exact Nat.lt_succ_of_lt le

theorem not_lineStart_stop {site : Site} (read : site.Read text) : ¬ LineStart text site.stop := by
  intro begun
  rcases begun with none | ⟨j, same, newline⟩
  · have lt := read.lt
    omega
  · have closed := read.closed
    rw [same, Nat.add_sub_cancel, newline] at closed
    cases closed

theorem findingsFrom_sites (k : Nat) {atStart : Bool} (begun : atStart = true ↔ LineStart text k) :
    ∃ sites broken, Sites text k sites broken ∧
      findingsFrom (lineOf text k) atStart (text.drop k) =
        sites.map (·.finding) ++ (broken.map fun b => .malformed b.block).toList := by
  induction size : (text.drop k).length using Nat.strongRecOn generalizing k atStart with
  | _ size ih =>
    rcases nextOpening?_at begun with ⟨none, clear⟩ | ⟨m, rest, opening, opens, found⟩
    · exact ⟨[], .none, .done clear, findingsFrom_of_none none⟩
    · have start := opening.2.1.1
      cases read : readDefinition (lineOf text m) rest with
      | error block =>
        refine ⟨[], some ⟨m, block⟩, .broken opening ⟨start, rest, opens, read⟩, ?_⟩
        exact findingsFrom_of_error found read
      | ok result =>
        obtain ⟨finding, after⟩ := result
        obtain ⟨first, stop, site, rfl⟩ := exists_site start opens read
        have shorter : rest.length < (text.drop k).length := nextOpening?_length_lt found
        have shorter' := readDefinition_length_le read
        have line : lineOf text m + newlinesBefore (text.drop stop) (text.drop m) = lineOf text stop := by
          have whole := lineOf_add_count text m
          have whole' := lineOf_add_count text stop
          have later : lineOf text m ≤ lineOf text stop :=
            lineOf_mono (Nat.le_of_lt (Nat.lt_of_le_of_lt site.keyword.le site.lt))
          rw [newlinesBefore]
          omega
        have begun' : false = true ↔ LineStart text stop :=
          ⟨fun none => absurd none Bool.false_ne_true, fun start => absurd start (not_lineStart_stop site)⟩
        obtain ⟨sites, broken, later, same⟩ := ih _ (by omega) stop begun' rfl
        refine ⟨⟨m, first, stop, finding⟩ :: sites, broken, .found opening site later, ?_⟩
        rw [findingsFrom_of_opening found read, line, same]
        rfl

end

end Header

end HeaderTypes
