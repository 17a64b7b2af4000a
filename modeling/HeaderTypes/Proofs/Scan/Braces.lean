import Mathlib.Data.List.Infix
import HeaderTypes.Proofs.Field.Foreign
import HeaderTypes.Proofs.Header.Partition
import HeaderTypes.Proofs.Scan.Reach

namespace HeaderTypes
open Text

namespace Text

theorem foreign_openingBrace : Foreign '{' := ⟨by decide, by decide, by decide⟩

theorem foreign_closingBrace : Foreign '}' := ⟨by decide, by decide, by decide⟩

/-- As many braces are closed as are opened, and none before it is opened. -/
structure Balanced (s : List Char) : Prop where
  settled : s.count '{' = s.count '}'
  opened : ∀ t, t <+: s → t.count '}' ≤ t.count '{'

theorem balanced_of_not_mem {s : List Char} (unopened : '{' ∉ s) (unclosed : '}' ∉ s) : Balanced s where
  settled := by rw [List.count_eq_zero_of_not_mem unopened, List.count_eq_zero_of_not_mem unclosed]
  opened t head := by
    have none : '}' ∉ t := fun member => unclosed (head.subset member)
    rw [List.count_eq_zero_of_not_mem none]
    exact Nat.zero_le _

/-- A closing brace matches an opening one, with only balanced braces between them. -/
structure Matches (text : List Char) (brace marker : Nat) : Prop where
  opening : text[brace]? = some '{'
  closing : text[marker]? = some '}'
  lt : brace < marker
  balanced : Balanced ((text.take marker).drop (brace + 1))

theorem take_succ_drop {text : List Char} {c : Char} {brace marker : Nat} (here : text[marker]? = some c)
    (lt : brace < marker) : (text.take (marker + 1)).drop (brace + 1) =
      (text.take marker).drop (brace + 1) ++ [c] := by
  obtain ⟨inside, -⟩ := List.getElem?_eq_some_iff.mp here
  have reach : brace + 1 ≤ (text.take marker).length := by
    rw [List.length_take]
    omega
  rw [List.take_add_one, here, Option.toList_some, List.drop_append_of_le_length reach]

theorem Matches.not_lt {text : List Char} {brace marker other : Nat} (first : Matches text brace marker)
    (second : Matches text brace other) : ¬ marker < other := by
  intro before
  have head : (text.take (marker + 1)).drop (brace + 1) <+: (text.take other).drop (brace + 1) :=
    (List.take_prefix_take_left before).drop (brace + 1)
  -- the brace at `marker` would be closed before it is opened
  have opened := second.balanced.opened _ head
  have settled := first.balanced.settled
  rw [take_succ_drop first.closing first.lt, List.count_append, List.count_append, settled,
    List.count_singleton_self, List.count_eq_zero_of_not_mem (a := '{') (by decide)] at opened
  omega

theorem Matches.unique {text : List Char} {brace marker other : Nat} (first : Matches text brace marker)
    (second : Matches text brace other) : other = marker := by
  have lower := first.not_lt second
  have upper := second.not_lt first
  omega

end Text

namespace Header

theorem exists_encloses {text : String} {block : StructBlock} (found : .block block ∈ findings text) :
    ∃ site brace marker, site.finding = .block block ∧ Site.Read text.toList site ∧
      site.Encloses text.toList block brace marker := by
  obtain ⟨sites, broken, all, same⟩ := findings_sites text
  rw [same] at found
  rcases List.mem_append.mp found with listed | last
  · obtain ⟨site, member, yields⟩ := List.mem_map.mp listed
    have read := all.read site member
    obtain ⟨brace, marker, encloses⟩ := read.encloses yields
    exact ⟨site, brace, marker, yields, read, encloses⟩
  · obtain ⟨b, -, other⟩ := Option.map_eq_some_iff.mp (Option.mem_toList.mp last)
    cases other

section
variable {text : List Char} {site : Site} {block : StructBlock} {brace marker : Nat}
  (encloses : site.Encloses text block brace marker)
include encloses

theorem Site.Encloses.closed : text[marker]? = some '}' := by
  obtain ⟨rest, tag, -, -, closes, -⟩ := encloses.head
  obtain ⟨gap, gap', same, -, -⟩ := closes.written
  exact getElem?_of_drop same

/-- Without comments the body of a definition is all that stands between its braces. -/
theorem Site.Encloses.body_of_uncommented (plain : Comment.uncommented text) :
    block.body.toList = (text.take marker).drop (brace + 1) := by
  have plain' := Comment.uncommented_of_suffix (List.drop_suffix (brace + 1) _)
    (Comment.uncommented_of_prefix (List.take_prefix marker text) plain)
  rw [encloses.body, String.toList_ofList, Comment.strip_of_uncommented plain']

theorem Site.Encloses.matches (plain : Comment.uncommented text) (unopened : '{' ∉ block.body.toList)
    (unclosed : '}' ∉ block.body.toList) : Matches text brace marker where
  opening := encloses.opened
  closing := encloses.closed
  lt := encloses.ordered.2.1
  balanced := by
    rw [← encloses.body_of_uncommented plain]
    exact balanced_of_not_mem unopened unclosed

end

end Header

theorem Registry.Lacks.of_prefix {c : Char} {r r' : Registry} (lacking : r'.Lacks c)
    (head : r.entries <+: r'.entries) : r.Lacks c :=
  fun d member => lacking d (head.subset member)

namespace Scan
open HeaderTypes.Action Registry

section
variable {c : Char} (foreign : Foreign c) {scan after : Scan}
include foreign

theorem TakesBlock.lacks {block : StructBlock} {added : List String}
    (takes : TakesBlock scan block added after) (lacking : scan.registry.Lacks c) :
    after.registry.Lacks c := by
  cases takes with
  | skip => exact lacking
  | register reg => exact reg.lacks foreign lacking

/-- No name with a foreign character comes into a registry that has none. -/
theorem Takes.lacks {findings : List Finding} {names : List String}
    (takes : Takes scan findings names after) (lacking : scan.registry.Lacks c) :
    after.registry.Lacks c := by
  induction takes with
  | done => exact lacking
  | forward _ ih => exact ih lacking
  | block first _ ih => exact ih (first.lacks foreign lacking)

end

theorem TakesBlock.tags_eq {scan after : Scan} {block : StructBlock} {added : List String}
    (takes : TakesBlock scan block added after) : after.tags = scan.tags := by
  cases takes <;> rfl

/-- A struct was registered from one of the findings that a header has, into a registry of which
nothing has changed since. -/
def RegisteredFrom (tags : Tags) (later : Registry) (findings : List Finding) (d : Descriptor) : Prop :=
  ∃ r block, ∃ reg : Registration tags r block, .block block ∈ findings ∧ d = reg.struct ∧
    reg.registry.entries <+: later.entries

theorem RegisteredFrom.mono {tags : Tags} {later : Registry} {findings others : List Finding}
    {d : Descriptor} (registered : RegisteredFrom tags later findings d) (more : findings ⊆ others) :
    RegisteredFrom tags later others d := by
  obtain ⟨r, block, reg, listed, same, early⟩ := registered
  exact ⟨r, block, reg, more listed, same, early⟩

/-- Every struct that findings append to a registry comes from a definition among them. -/
theorem Takes.registered {scan after : Scan} {findings : List Finding} {names : List String}
    (takes : Takes scan findings names after) :
    ∃ appended, after.registry.entries = scan.registry.entries ++ appended ∧
      ∀ d ∈ appended, d.isStruct → RegisteredFrom scan.tags after.registry findings d := by
  induction takes with
  | done => exact ⟨[], (List.append_nil _).symm, nofun⟩
  | forward _ ih =>
    obtain ⟨appended, grown, registered⟩ := ih
    exact ⟨appended, grown, fun d member struct =>
      (registered d member struct).mono (List.subset_cons_self _ _)⟩
  | @block _ block _ _ findings _ _ first _ ih =>
    obtain ⟨appended, grown, registered⟩ := ih
    rw [first.tags_eq] at registered
    have more : findings ⊆ .block block :: findings := List.subset_cons_self _ _
    have later := fun d member struct => (registered d member struct).mono more
    cases first with
    | skip => exact ⟨appended, grown, later⟩
    | register reg =>
      have grown' := grown.trans (List.append_assoc _ _ _)
      refine ⟨reg.signatures ++ [reg.struct] ++ appended, grown', fun d member struct => ?_⟩
      rcases List.mem_append.mp member with here | rest
      · rcases List.mem_append.mp here with signed | last
        · exact absurd struct (reg.not_isStruct_of_mem_signatures signed)
        · refine ⟨_, _, reg, List.mem_cons_self, List.mem_singleton.mp last, ?_⟩
          exact ⟨appended, grown.symm⟩
      · exact later d rest struct

/-- A struct comes from a definition of a text whose body has no brace. Where the text has no comments,
the body is all that stands between the brace that opens it and the one that matches this brace. -/
structure Unbraced (text : String) (block : StructBlock) : Prop where
  found : .block block ∈ Header.findings text
  unopened : '{' ∉ block.body.toList
  unclosed : '}' ∉ block.body.toList
  enclosed : ∃ site brace marker, site.finding = .block block ∧ Header.Site.Read text.toList site ∧
    site.Encloses text.toList block brace marker ∧
    (Comment.uncommented text.toList →
      block.body.toList = (text.toList.take marker).drop (brace + 1) ∧
        Matches text.toList brace marker ∧ ∀ other, Matches text.toList brace other → other = marker)

theorem unbraced_of_not_mem {text : String} {block : StructBlock}
    (found : .block block ∈ Header.findings text) (unopened : '{' ∉ block.body.toList)
    (unclosed : '}' ∉ block.body.toList) : Unbraced text block := by
  obtain ⟨site, brace, marker, yields, read, encloses⟩ := Header.exists_encloses found
  refine ⟨found, unopened, unclosed, site, brace, marker, yields, read, encloses, fun plain => ?_⟩
  have pair := encloses.matches plain unopened unclosed
  exact ⟨encloses.body_of_uncommented plain, pair, fun other second => pair.unique second⟩

/-- A scan that knows no name with a brace registers structs only from definitions whose bodies have
none, however the scan of the header ends, and it goes on to know no name with a brace. -/
theorem takeHeader_unbraced {scan after : Scan} {text origin : String}
    {result : Except Failure (List String)} (opening : scan.registry.Lacks '{')
    (closing : scan.registry.Lacks '}') (ends : (takeHeader text origin).Ends scan result after) :
    (after.registry.Lacks '{' ∧ after.registry.Lacks '}') ∧
      ∃ appended, after.registry.entries = scan.registry.entries ++ appended ∧
        ∀ d ∈ appended, d.isStruct → ∃ r block, ∃ reg : Registration scan.tags r block,
          d = reg.struct ∧ Unbraced text block := by
  rcases takeHeader_takes ends with rfl | ⟨taken, names, between, head, takes, left⟩
  · exact ⟨⟨opening, closing⟩, [], (List.append_nil _).symm, nofun⟩
  have left' : after.registry = between.registry := by rcases left with rfl | rfl <;> rfl
  have opening' := takes.lacks foreign_openingBrace opening
  have closing' := takes.lacks foreign_closingBrace closing
  obtain ⟨appended, grown, registered⟩ := takes.registered
  rw [left']
  refine ⟨⟨opening', closing'⟩, appended, grown, fun d member struct => ?_⟩
  obtain ⟨r, block, reg, listed, same, early⟩ := registered d member struct
  have within : r.entries <+: between.registry.entries := (List.prefix_append _ _).trans early
  exact ⟨r, block, reg, same, unbraced_of_not_mem (head.subset listed)
    (reg.not_mem_body foreign_openingBrace (opening'.of_prefix within))
    (reg.not_mem_body foreign_closingBrace (closing'.of_prefix within))⟩

/-- Two definitions, of which the second is cut short behind a struct inside it. -/
def cutHeader : String :=
  "typedef struct { int a; } a_t;\ntypedef struct { struct { int b; } c; } s_t;"

theorem takeHeader_unbraced_cutHeader :
    ofInt.registry.Lacks '{' ∧ ofInt.registry.Lacks '}' ∧
      ∃ after, (takeHeader cutHeader "h").Ends ofInt
          (.error (.unknownType ⟨"c", "struct \x7b int", none, "field"⟩)) after ∧
        after.registry.entries = [.primitive "int" true, .struct "a_t" [⟨"int", "a"⟩] true] ∧
        ∃ appended, after.registry.entries = ofInt.registry.entries ++ appended ∧
          ∀ d ∈ appended, d.isStruct → ∃ r block, ∃ reg : Registration ofInt.tags r block,
            d = reg.struct ∧ Unbraced cutHeader block := by
  have opening : ∀ d ∈ ofInt.registry.entries, '{' ∉ d.name.text.toList := by decide
  have closing : ∀ d ∈ ofInt.registry.entries, '}' ∉ d.name.text.toList := by decide
  have ends : (takeHeader cutHeader "h").Ends ofInt
      (.error (.unknownType ⟨"c", "struct \x7b int", none, "field"⟩))
      ((takeHeader cutHeader "h").run ofInt).state := ⟨by decide +kernel, rfl⟩
  exact ⟨opening, closing, _, ends, by decide +kernel, (takeHeader_unbraced opening closing ends).2⟩

end Scan

end HeaderTypes
