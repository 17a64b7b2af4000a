import HeaderTypes.Proofs.Header.Site

namespace HeaderTypes
open Text

namespace Text

theorem splitOn_zero (text : List Char) :
    (splitOn '\n' text)[0]? = some (text.takeWhile (· ≠ '\n')) := by
  induction text with
  | nil => rfl
  | cons c text ih =>
    rw [splitOn]
    by_cases newline : c = '\n'
    · rw [if_pos newline, newline]
      rfl
    · rw [if_neg newline, List.takeWhile_cons_of_pos (by simpa using newline)]
      cases parts : splitOn '\n' text with
      | nil => simp [parts] at ih
      | cons part parts' =>
        rw [parts, List.getElem?_cons_zero, Option.some.injEq] at ih
        rw [List.getElem?_cons_zero, ih]

/-- The line that begins at a position reaches up to the next newline. -/
theorem splitOn_lineOf {text : List Char} {k : Nat} (begun : LineStart text k) :
    (splitOn '\n' text)[lineOf text k - 1]? = some ((text.drop k).takeWhile (· ≠ '\n')) := by
  rw [lineOf, Nat.add_sub_cancel]
  induction text generalizing k with
  | nil =>
    rcases begun with rfl | ⟨j, -, newline⟩
    · rfl
    · cases newline
  | cons c text ih =>
    rcases begun with rfl | ⟨j, rfl, newline⟩
    · exact splitOn_zero (c :: text)
    rw [List.take_succ_cons, List.drop_succ_cons, splitOn]
    have begun' : LineStart text j ∧ (c ≠ '\n' → 0 < (text.take j).count '\n') := by
      cases j with
      | zero =>
        rw [List.getElem?_cons_zero, Option.some.injEq] at newline
        exact ⟨Or.inl rfl, fun other => absurd newline other⟩
      | succ i =>
        rw [List.getElem?_cons_succ] at newline
        refine ⟨Or.inr ⟨i, rfl, newline⟩, fun _ => ?_⟩
        rw [List.take_add_one, newline, List.count_append]
        exact Nat.succ_pos _
    have rest := ih begun'.1
    by_cases here : c = '\n'
    · rw [if_pos here, here, List.count_cons_self, List.getElem?_cons_succ, rest]
    · rw [if_neg here, List.count_cons_of_ne here]
      -- the line is no part of the one that `c` stands on
      obtain ⟨n, counted⟩ := Nat.exists_eq_add_of_lt (begun'.2 here)
      cases parts : splitOn '\n' text with
      | nil => simp [parts] at rest
      | cons part parts' =>
        rw [parts] at rest
        rw [counted] at rest ⊢
        exact rest

end Text

/-- The line on which something was found. -/
def Finding.line : Finding → Nat
  | .block definition => definition.line
  | .forward line => line
  | .malformed definition => definition.line

/-- The definition that cannot be read, if it is one. -/
def Finding.malformed? : Finding → Option MalformedBlock
  | .malformed definition => some definition
  | _ => none

namespace Header

theorem blocks_eq (text : String) : blocks text =
    ((findings text).filterMap Finding.block?, (findings text).findSome? Finding.malformed?) :=
  rfl

theorem line_of_readDefinition {line : Nat} {s rest : List Char} {finding : Finding}
    (read : readDefinition line s = .ok (finding, rest)) : finding.line = line := by
  rcases readDefinition_cases read with ⟨_, _, _, _, _, _, rfl⟩ | ⟨_, _, _, _, _, _, rfl⟩ <;> rfl

theorem line_of_readDefinition_error {line : Nat} {s : List Char} {block : MalformedBlock}
    (refused : readDefinition line s = .error block) : block.line = line := by
  unfold readDefinition at refused
  generalize readHead s = head at refused
  obtain ⟨tag, rest⟩ := head
  dsimp only at refused
  split at refused
  · cases refused
    rfl
  · split at refused <;> cases refused
    rfl
  · split at refused <;> cases refused <;> rfl

theorem splitAtMarker?_first {given : Option (List Char)} {s body found rest : List Char}
    (split : splitAtMarker? given s = some (body, found, rest)) :
    ∃ t, s = body ++ t ∧ marker? given t = some (found, rest) ∧
      ∀ i, i < body.length → marker? given (body.drop i ++ t) = none := by
  induction s generalizing body with
  | nil => cases split
  | cons c s ih =>
    rw [splitAtMarker?] at split
    split at split
    · rename_i marks
      cases split
      exact ⟨c :: s, rfl, marks, fun i lt => absurd lt (Nat.not_lt_zero i)⟩
    · rename_i none
      obtain ⟨⟨inner, found', rest'⟩, inside, same⟩ := Option.map_eq_some_iff.mp split
      cases same
      obtain ⟨t, rfl, marks, first⟩ := ih inside
      refine ⟨t, rfl, marks, fun i lt => ?_⟩
      cases i with
      | zero => exact none
      | succ i => exact first i (Nat.lt_of_succ_lt_succ lt)

/-- A closing marker begins at one position and ends before another one. It gives a name, the one
that is asked for if there is one. -/
structure ClosesAt (text : List Char) (given : Option String) (marker : Nat) (name : String)
    (stop : Nat) : Prop where
  written : ∃ gap gap', text.drop marker =
      '}' :: (gap ++ (name.toList ++ (gap' ++ ';' :: text.drop stop))) ∧
    (∀ c ∈ gap, isBlank c) ∧ ∀ c ∈ gap', isBlank c
  named : isName name.toList
  asked : ∀ n ∈ given, n = name

theorem closesAt_iff {text : List Char} {given : Option String} {marker stop : Nat} {name : String}
    (named : ∀ n ∈ given.map String.toList, isName n) :
    ClosesAt text given marker name stop ↔
      marker? (given.map String.toList) (text.drop marker) = some (name.toList, text.drop stop) := by
  have asked : (∀ n ∈ given, n = name) ↔ ∀ n ∈ given.map String.toList, n = name.toList := by
    cases given with
    | none => exact ⟨nofun, nofun⟩
    | some n => simp [String.toList_inj]
  rw [marker?_eq_some_iff named]
  constructor
  · rintro ⟨⟨gap, gap', same, blank, blank'⟩, isNamed, given⟩
    exact ⟨gap, gap', same, blank, blank', isNamed, asked.mp given⟩
  · rintro ⟨gap, gap', same, blank, blank', isNamed, given⟩
    exact ⟨⟨gap, gap', same, blank, blank'⟩, isNamed, asked.mpr given⟩

/-- A definition stands at a site, its body between two braces. The first one ends the head, and the
second one begins the first marker behind it that closes the definition. With a tag the marker has to
give the name that belongs to it. -/
structure Site.Encloses (text : List Char) (site : Site) (block : StructBlock) (brace marker : Nat) :
    Prop where
  opened : text[brace]? = some '{'
  ordered : site.first < brace ∧ brace < marker ∧ marker < site.stop
  head : ∃ rest tag, opening? (text.drop site.margin) = some rest ∧
    readHead rest = (tag, text.drop brace) ∧
    ClosesAt text (givenName tag) marker block.name site.stop ∧
    ∀ j name stop, brace < j → j < marker → ¬ ClosesAt text (givenName tag) j name stop
  body : block.body = String.ofList (Comment.strip ((text.take marker).drop (brace + 1)))

/-- A declaration stands at a site, up to the first semicolon behind its head that is in no comment. -/
def Site.Declares (text : List Char) (site : Site) : Prop :=
  ∃ rest tag s, opening? (text.drop site.margin) = some rest ∧ readHead rest = (tag, s) ∧
    startsWith (· = '{') s = false ∧ declarationEnd? s = some (';', text.drop site.stop)

section
variable {text : List Char}

theorem Keyword.getElem?_first {margin first : Nat} (keyword : Keyword text margin first) :
    text[first]? = some 't' := by
  obtain ⟨rest, same⟩ := keyword.word
  exact getElem?_of_drop same.symm

theorem Keyword.unique {margin first first' : Nat} (keyword : Keyword text margin first)
    (keyword' : Keyword text margin first') : first = first' := by
  have visible {i : Nat} (here : text[i]? = some 't') : ¬ (text[i]? = some ' ' ∨ text[i]? = some '\t') := by
    rw [here]
    decide
  rcases Nat.lt_trichotomy first first' with before | same | behind
  · exact absurd (keyword'.narrow first keyword.le before) (visible keyword.getElem?_first)
  · exact same
  · exact absurd (keyword.narrow first' keyword'.le behind) (visible keyword'.getElem?_first)

theorem ClosesAt.lt {given : Option String} {marker stop : Nat} {name : String}
    (closes : ClosesAt text given marker name stop) : marker < stop := by
  obtain ⟨gap, gap', same, -, -⟩ := closes.written
  have lengths := congrArg List.length same
  simp only [List.length_cons, List.length_append, List.length_drop] at lengths
  omega

namespace Site.Read
variable {site : Site} (read : site.Read text)
include read

theorem encloses {block : StructBlock} (found : site.finding = .block block) :
    ∃ brace marker, site.Encloses text block brace marker := by
  obtain ⟨rest, opens, said⟩ := read.read
  rw [found] at said
  rcases readDefinition_cases said with ⟨tag, inside, body, name, head, split, same⟩ |
    ⟨_, _, _, _, _, _, same⟩
  · cases same
    have named := isName_of_mem_givenName head
    obtain ⟨first, keyword, tail⟩ := exists_keyword opens
    cases keyword.unique read.keyword
    obtain ⟨brace, atBrace, le, -⟩ := drop_of_suffix ((readHead_suffix head).trans tail)
    have behind := drop_succ_of_drop atBrace.symm
    obtain ⟨t, whole, marks, clear⟩ := splitAtMarker?_first split
    rw [whole] at behind
    have atMarker : text.drop (brace + 1 + body.length) = t := by
      rw [← List.drop_drop, behind, List.drop_left]
    have closes : ClosesAt text (givenName tag) (brace + 1 + body.length) (String.ofList name)
        site.stop := by
      rw [closesAt_iff named, atMarker, String.toList_ofList]
      exact marks
    have between : (text.take (brace + 1 + body.length)).drop (brace + 1) = body := by
      rw [List.drop_take, behind, Nat.add_sub_cancel_left, List.take_left]
    refine ⟨brace, brace + 1 + body.length, getElem?_of_drop atBrace.symm, ⟨le, by omega, closes.lt⟩,
      ⟨rest, tag, opens, atBrace ▸ head, closes, fun j name' stop lt before other => ?_⟩, by rw [between]⟩
    obtain ⟨i, rfl⟩ := Nat.exists_eq_add_of_lt lt
    have inner : i < body.length := by omega
    have here : text.drop (brace + i + 1) = body.drop i ++ t := by
      rw [Nat.add_right_comm, ← List.drop_drop, behind, List.drop_append_of_le_length (Nat.le_of_lt inner)]
    rw [closesAt_iff named, here, clear i inner] at other
    cases other
  · cases same

theorem declares {line : Nat} (found : site.finding = .forward line) : site.Declares text := by
  obtain ⟨rest, opens, said⟩ := read.read
  rw [found] at said
  rcases readDefinition_cases said with ⟨_, _, _, _, _, _, same⟩ | ⟨tag, s, head, -, other, ends, -⟩
  · cases same
  · exact ⟨rest, tag, s, opens, head, other, ends⟩

theorem not_malformed (block : MalformedBlock) : site.finding ≠ .malformed block := by
  obtain ⟨rest, -, said⟩ := read.read
  rcases readDefinition_cases said with ⟨_, _, _, _, _, _, same⟩ | ⟨_, _, _, _, _, _, same⟩ <;>
    rw [same] <;> nofun

/-- A definition that opens later on opens behind the end of the site, or its `typedef` stands inside. -/
theorem inside_or_behind {k p : Nat} (opens : OpensAt text k) (keyword : Keyword text k p)
    (later : site.margin < k) : site.first < p ∧ p < site.stop ∨ site.stop ≤ k := by
  have reach := read.keyword.le
  have le := keyword.le
  rcases opens.1 with rfl | ⟨j, rfl, newline⟩
  · exact absurd later (Nat.not_lt_zero _)
  -- neither margin holds a newline or a semicolon
  have behind : site.first ≤ j := by
    refine Nat.le_of_not_lt fun lt => ?_
    have narrow := read.keyword.narrow j (by omega) lt
    rw [newline] at narrow
    revert narrow
    decide
  by_cases past : site.stop ≤ j + 1
  · exact Or.inr past
  · refine Or.inl ⟨by omega, Nat.lt_of_not_le fun stop => ?_⟩
    have narrow := keyword.narrow (site.stop - 1) (by omega) (by omega)
    rw [read.closed] at narrow
    revert narrow
    decide

end Site.Read

/-- The positions at which the lines of all sites begin, with that of the definition that cannot be
read. -/
def margins (sites : List Site) (broken : Option Broken) : List Nat :=
  sites.map (·.margin) ++ (broken.map (·.margin)).toList

namespace Sites
variable {k : Nat} {sites : List Site} {broken : Option Broken}

theorem read (all : Sites text k sites broken) : ∀ site ∈ sites, site.Read text := by
  induction all with
  | done _ => nofun
  | broken _ _ => nofun
  | found _ here _ ih => exact List.forall_mem_cons.mpr ⟨here, ih⟩

theorem refused (all : Sites text k sites broken) : ∀ b ∈ broken, b.Refused text := by
  induction all with
  | done _ => nofun
  | broken _ refused =>
    rintro b ⟨⟩
    exact refused
  | found _ _ _ ih => exact ih

theorem lineStart_of_mem_margins (all : Sites text k sites broken) :
    ∀ m ∈ margins sites broken, LineStart text m := by
  intro m member
  rcases List.mem_append.mp member with here | last
  · obtain ⟨site, listed, rfl⟩ := List.mem_map.mp here
    exact (all.read site listed).begun
  · obtain ⟨b, listed, rfl⟩ := Option.map_eq_some_iff.mp (Option.mem_toList.mp last)
    exact (all.refused b listed).begun

theorem le_of_mem_margins (all : Sites text k sites broken) : ∀ m ∈ margins sites broken, k ≤ m := by
  induction all with
  | done _ => nofun
  | broken opening _ =>
    intro m member
    cases List.mem_singleton.mp member
    exact opening.1
  | @found k site sites broken opening read _ ih =>
    refine List.forall_mem_cons.mpr ⟨opening.1, fun m member => ?_⟩
    have behind := ih m member
    have lt := Nat.lt_of_le_of_lt read.keyword.le read.lt
    have first := opening.1
    omega

/-- No line on which something is found begins before the end of a site above it. -/
theorem margins_pairwise (all : Sites text k sites broken) :
    (margins sites broken).Pairwise (· < ·) ∧ sites.Pairwise (fun a b => a.stop ≤ b.margin) ∧
      ∀ b ∈ broken, ∀ site ∈ sites, site.stop ≤ b.margin := by
  induction all with
  | done _ => exact ⟨.nil, .nil, nofun⟩
  | broken _ _ => exact ⟨List.pairwise_singleton _ _, .nil, fun _ _ => nofun⟩
  | @found k site sites broken opening read later ih =>
    have behind := later.le_of_mem_margins
    have lt := Nat.lt_of_le_of_lt read.keyword.le read.lt
    obtain ⟨increasing, apart, last⟩ := ih
    refine ⟨List.pairwise_cons.mpr ⟨fun m member => ?_, increasing⟩,
      List.pairwise_cons.mpr ⟨fun next member => ?_, apart⟩, fun b found => ?_⟩
    · exact Nat.lt_of_lt_of_le lt (behind m member)
    · exact behind next.margin (List.mem_append_left _ (List.mem_map_of_mem member))
    · refine List.forall_mem_cons.mpr ⟨behind b.margin (List.mem_append_right _ ?_), last b found⟩
      cases found
      exact List.mem_cons_self

/-- Whatever opens from the beginning of the search on has a site of its own, or its `typedef` stands
inside one, or the search does not get past it. -/
theorem complete (all : Sites text k sites broken) {m p : Nat} (from' : k ≤ m) (opens : OpensAt text m)
    (keyword : Keyword text m p) :
    (∃ site ∈ sites, site.margin = m ∧ site.first = p) ∨
      (∃ site ∈ sites, site.first < p ∧ p < site.stop) ∨ ∃ b ∈ broken, b.margin ≤ m := by
  induction all with
  | done clear => exact absurd opens (clear m from')
  | @broken k b opening _ =>
    refine Or.inr (Or.inr ⟨b, rfl, Nat.le_of_not_lt fun before => ?_⟩)
    exact opening.2.2 m from' before opens
  | @found k site sites broken opening read _ ih =>
    rcases Nat.lt_trichotomy m site.margin with before | same | behind
    · exact absurd opens (opening.2.2 m from' before)
    · subst same
      exact Or.inl ⟨site, List.mem_cons_self, rfl, read.keyword.unique keyword⟩
    · rcases read.inside_or_behind opens keyword behind with inside | past
      · exact Or.inr (Or.inl ⟨site, List.mem_cons_self, inside⟩)
      · have longer {P : Site → Prop} : (∃ s ∈ sites, P s) → ∃ s ∈ site :: sites, P s :=
          fun ⟨s, listed, held⟩ => ⟨s, List.mem_cons_of_mem _ listed, held⟩
        exact (ih past).imp longer (Or.imp_left longer)

theorem lines (all : Sites text k sites broken) :
    (sites.map Site.finding ++ (broken.map fun b => Finding.malformed b.block).toList).map Finding.line =
      (margins sites broken).map (lineOf text) := by
  rw [margins, List.map_append, List.map_append, List.map_map, List.map_map]
  refine congrArg₂ (· ++ ·) (List.map_congr_left fun site listed => ?_) ?_
  · obtain ⟨rest, -, said⟩ := (all.read site listed).read
    exact line_of_readDefinition said
  · cases broken with
    | none => rfl
    | some b =>
      obtain ⟨rest, -, said⟩ := (all.refused b rfl).read
      exact congrArg (fun line => [line]) (line_of_readDefinition_error said)

theorem increasing (all : Sites text k sites broken) :
    ((margins sites broken).map (lineOf text)).Pairwise (· < ·) := by
  refine List.pairwise_map.mpr (all.margins_pairwise.1.imp_of_mem fun _ member lt => ?_)
  exact lineOf_lt lt (all.lineStart_of_mem_margins _ member)

theorem opens_of_mem_margins (all : Sites text k sites broken) {m : Nat}
    (member : m ∈ margins sites broken) : ∃ rest, opening? (text.drop m) = some rest := by
  rcases List.mem_append.mp member with here | last
  · obtain ⟨site, listed, rfl⟩ := List.mem_map.mp here
    obtain ⟨rest, opens, -⟩ := (all.read site listed).read
    exact ⟨rest, opens⟩
  · obtain ⟨b, listed, rfl⟩ := Option.map_eq_some_iff.mp (Option.mem_toList.mp last)
    obtain ⟨rest, opens, -⟩ := (all.refused b listed).read
    exact ⟨rest, opens⟩

end Sites

/-- The sites of a text, and the definition before which the search ends if it cannot be read. Each
site is what its finding says, they stand one behind the other, and no definition that opens anywhere
else is left out before the search ends. -/
structure Partition (text : List Char) (sites : List Site) (broken : Option Broken) : Prop where
  read : ∀ site ∈ sites, site.Read text
  encloses : ∀ site ∈ sites, ∀ block, site.finding = .block block →
    ∃ brace marker, site.Encloses text block brace marker
  declares : ∀ site ∈ sites, ∀ line, site.finding = .forward line → site.Declares text
  ordered : sites.Pairwise fun a b => a.stop ≤ b.margin
  refused : ∀ b ∈ broken, b.Refused text ∧ ∀ site ∈ sites, site.stop ≤ b.margin
  complete : ∀ m p, OpensAt text m → Keyword text m p →
    (∃ site ∈ sites, site.margin = m ∧ site.first = p) ∨
      (∃ site ∈ sites, site.first < p ∧ p < site.stop) ∨ ∃ b ∈ broken, b.margin ≤ m

theorem Sites.partition {sites : List Site} {broken : Option Broken} (all : Sites text 0 sites broken) :
    Partition text sites broken where
  read := all.read
  encloses site listed _ found := (all.read site listed).encloses found
  declares site listed _ found := (all.read site listed).declares found
  ordered := all.margins_pairwise.2.1
  refused b found := ⟨all.refused b found, all.margins_pairwise.2.2 b found⟩
  complete _ _ := all.complete (Nat.zero_le _)

/-- A line on which a definition opens begins with its margin and the word `typedef`. -/
theorem line_of_opening? {m : Nat} {rest : List Char} (begun : LineStart text m)
    (opens : opening? (text.drop m) = some rest) :
    ∃ margin tail, (splitOn '\n' text)[lineOf text m - 1]? =
      some (margin ++ ("typedef".toList ++ tail)) ∧ ∀ c ∈ margin, c = ' ' ∨ c = '\t' := by
  obtain ⟨margin, gap, same, narrow, -, -, -⟩ := opening?_eq_some_iff.mp opens
  have narrow' : ∀ c ∈ margin, c = ' ' ∨ c = '\t' := fun c member => by simpa using narrow c member
  have whole : ∀ c ∈ margin, decide (c ≠ '\n') := by
    intro c member
    rcases narrow' c member with rfl | rfl <;> rfl
  have word : "typedef".toList.all (· ≠ '\n') := by decide
  refine ⟨margin, (gap ++ ("struct".toList ++ rest)).takeWhile (· ≠ '\n'), ?_, narrow'⟩
  rw [splitOn_lineOf begun, same, List.takeWhile_append_of_pos whole,
    List.takeWhile_append_of_pos (List.all_eq_true.mp word)]

theorem findings_sites (text : String) :
    ∃ sites broken, Sites text.toList 0 sites broken ∧ findings text =
      sites.map Site.finding ++ (broken.map fun b => Finding.malformed b.block).toList :=
  findingsFrom_sites 0 ⟨fun _ => Or.inl rfl, fun _ => rfl⟩

theorem blocks_of_sites {text : String} {sites : List Site} {broken : Option Broken}
    (all : Sites text.toList 0 sites broken)
    (found : findings text =
      sites.map Site.finding ++ (broken.map fun b => Finding.malformed b.block).toList) :
    blocks text = (sites.filterMap (·.finding.block?), broken.map (·.block)) := by
  have none : (sites.map Site.finding).findSome? Finding.malformed? = Option.none := by
    refine List.findSome?_eq_none_iff.mpr fun finding member => ?_
    obtain ⟨site, listed, rfl⟩ := List.mem_map.mp member
    cases same : site.finding with
    | malformed block => exact absurd same ((all.read site listed).not_malformed block)
    | block _ => rfl
    | forward _ => rfl
  rw [blocks_eq, found, List.findSome?_append, none, Option.none_or, List.filterMap_append,
    List.filterMap_map]
  cases broken with
  | none => exact congrArg (·, Option.none) (List.append_nil _)
  | some b => exact congrArg (·, Option.some b.block) (List.append_nil _)

end

theorem blocks_lines_sublist (all : List Finding) :
    ((all.filterMap Finding.block?).map (·.line)).Sublist (all.map Finding.line) := by
  induction all with
  | nil => exact .slnil
  | cons finding all ih =>
    cases finding with
    | block _ => exact .cons_cons _ ih
    | forward _ => exact .cons _ ih
    | malformed _ => exact .cons _ ih

theorem length_le_of_increasing {lines : List Nat} (increasing : lines.Pairwise (· < ·)) {low high : Nat}
    (within : ∀ line ∈ lines, low ≤ line ∧ line ≤ high) : lines.length ≤ high + 1 - low := by
  induction lines generalizing low with
  | nil => exact Nat.zero_le _
  | cons line lines ih =>
    obtain ⟨first, others⟩ := List.pairwise_cons.mp increasing
    obtain ⟨here, later⟩ := List.forall_mem_cons.mp within
    have rest : lines.length ≤ high + 1 - (line + 1) :=
      ih others fun next member => ⟨first next member, (later next member).2⟩
    rw [List.length_cons]
    omega

theorem findings_increasing (text : String) : ((findings text).map Finding.line).Pairwise (· < ·) := by
  obtain ⟨sites, broken, all, found⟩ := findings_sites text
  rw [found, all.lines]
  exact all.increasing

/-- Whatever is found opens on a line of its own. -/
theorem exists_opening_of_mem_findings {text : String} {finding : Finding}
    (member : finding ∈ findings text) :
    ∃ m rest, finding.line = lineOf text.toList m ∧ LineStart text.toList m ∧
      opening? (text.toList.drop m) = some rest := by
  obtain ⟨sites, broken, all, found⟩ := findings_sites text
  have listed : finding.line ∈ (margins sites broken).map (lineOf text.toList) := by
    rw [← all.lines, ← found]
    exact List.mem_map_of_mem member
  obtain ⟨m, listed, line⟩ := List.mem_map.mp listed
  obtain ⟨rest, opens⟩ := all.opens_of_mem_margins listed
  exact ⟨m, rest, line.symm, all.lineStart_of_mem_margins m listed, opens⟩

/-- A definition that cannot be read stands below all blocks, because the search ends there. -/
theorem line_lt_of_mem_blocks {text : String} {e : MalformedBlock} {block : StructBlock}
    (failed : e ∈ (blocks text).2) (listed : block ∈ (blocks text).1) : block.line < e.line := by
  obtain ⟨sites, broken, all, found⟩ := findings_sites text
  rw [blocks_of_sites all found] at failed listed
  obtain ⟨b, rfl, rfl⟩ := Option.map_eq_some_iff.mp failed
  obtain ⟨site, member, yields⟩ := List.mem_filterMap.mp listed
  have line : site.finding.line = block.line := by
    cases same : site.finding with
    | block _ =>
      rw [same] at yields
      cases yields
      rfl
    | forward _ => simp [same, Finding.block?] at yields
    | malformed _ => simp [same, Finding.block?] at yields
  have increasing := findings_increasing text
  rw [found, List.map_append] at increasing
  rw [← line]
  exact (List.pairwise_append.mp increasing).2.2 _
    (List.mem_map_of_mem (List.mem_map_of_mem member)) _ List.mem_cons_self

/-- No more is found in a text than it has lines. -/
theorem findings_length_le (text : String) :
    (findings text).length ≤ text.toList.count '\n' + 1 := by
  have within : ∀ line ∈ (findings text).map Finding.line,
      1 ≤ line ∧ line ≤ text.toList.count '\n' + 1 := by
    intro line member
    obtain ⟨finding, listed, rfl⟩ := List.mem_map.mp member
    obtain ⟨m, -, same, -⟩ := exists_opening_of_mem_findings listed
    have whole := lineOf_add_count text.toList m
    rw [same]
    exact ⟨Nat.succ_pos _, by omega⟩
  have bound := length_le_of_increasing (findings_increasing text) within
  rwa [List.length_map] at bound

/-- Blocks are extracted in one pass from left to right that ends: what is found stands one behind the
other, each on a later line than the one before it, and nothing between is left out. -/
theorem findings_partition (text : String) :
    ∃ sites broken, Partition text.toList sites broken ∧
      findings text =
        sites.map Site.finding ++ (broken.map fun b => Finding.malformed b.block).toList ∧
      blocks text = (sites.filterMap (·.finding.block?), broken.map (·.block)) ∧
      ((findings text).map Finding.line).Pairwise (· < ·) ∧
      ((blocks text).1.map (·.line)).Pairwise (· < ·) ∧
      (∀ e ∈ (blocks text).2, ∀ block ∈ (blocks text).1, block.line < e.line) ∧
      (∀ finding ∈ findings text, ∃ margin tail, 0 < finding.line ∧
        (splitOn '\n' text.toList)[finding.line - 1]? = some (margin ++ ("typedef".toList ++ tail)) ∧
        ∀ c ∈ margin, c = ' ' ∨ c = '\t') ∧
      (findings text).length ≤ text.toList.count '\n' + 1 := by
  obtain ⟨sites, broken, all, found⟩ := findings_sites text
  refine ⟨sites, broken, all.partition, found, blocks_of_sites all found, findings_increasing text,
    (findings_increasing text).sublist (blocks_lines_sublist _),
    fun e failed block listed => line_lt_of_mem_blocks failed listed, fun finding member => ?_,
    findings_length_le text⟩
  obtain ⟨m, rest, line, start, opens⟩ := exists_opening_of_mem_findings member
  obtain ⟨margin, tail, here, narrow⟩ := line_of_opening? start opens
  exact ⟨margin, tail, line ▸ Nat.succ_pos _, line ▸ here, narrow⟩

end Header

end HeaderTypes
