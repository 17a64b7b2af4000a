import HeaderTypes.Proofs.Registry.Calls
import HeaderTypes.Proofs.Scan.Runs
import HeaderTypes.Proofs.Scan.Split
import Mathlib.Data.List.Induction

namespace HeaderTypes

namespace Declaration

def pointerName? : Declaration → Option String
  | direct _ _ => none
  | pointer _ _ name _ => some name

/-- The names of the function pointers in a struct body, in their order. -/
def pointerNames (body : String) : List String :=
  (statements body).filterMap fun statement => (ofStatement? statement).bind (·.pointerName?)

end Declaration

/-- Of the names that come again, the one that comes again first. -/
def FirstRepeat (names : List String) (name : String) : Prop :=
  ∃ early late, names = early ++ name :: late ∧ name ∈ early ∧ early.Nodup

theorem FirstRepeat.unique {names : List String} {name name' : String}
    (repeated : FirstRepeat names name) (repeated' : FirstRepeat names name') : name = name' := by
  have longer {early : List String} {name : String} (member : name ∈ early) (late : List String) :
      ¬ (early ++ name :: late).Nodup := fun distinct =>
    (List.nodup_append.mp distinct).2.2 name member name List.mem_cons_self rfl
  obtain ⟨early, late, rfl, member, distinct⟩ := repeated
  obtain ⟨early', late', same, member', distinct'⟩ := repeated'
  rcases List.append_eq_append_iff.mp same with ⟨between, head, tail⟩ | ⟨between, head, tail⟩
  · cases between with
    | nil => exact (List.cons.inj tail).1
    | cons other between =>
      cases (List.cons.inj tail).1
      exact absurd (head ▸ distinct') (longer member between)
  · cases between with
    | nil => exact (List.cons.inj tail).1.symm
    | cons other between =>
      cases (List.cons.inj tail).1
      exact absurd (head ▸ distinct) (longer member' between)

theorem exists_firstRepeat_iff {names : List String} :
    (∃ name, FirstRepeat names name) ↔ ¬ names.Nodup := by
  constructor
  · rintro ⟨name, early, late, rfl, member, -⟩ distinct
    exact (List.nodup_append.mp distinct).2.2 name member name List.mem_cons_self rfl
  · intro repeated
    induction names using List.reverseRecOn with
    | nil => exact absurd .nil repeated
    | append_singleton names last ih =>
      by_cases distinct : names.Nodup
      · have member : last ∈ names := by
          by_contra other
          refine repeated (List.nodup_append.mpr ⟨distinct, List.nodup_singleton last, ?_⟩)
          rintro name listed _ final rfl
          exact other (List.mem_singleton.mp final ▸ listed)
        exact ⟨last, names, [], rfl, member, distinct⟩
      · obtain ⟨name, early, late, rfl, member, early'⟩ := ih distinct
        exact ⟨name, early, late ++ [last], by simp, member, early'⟩

namespace Registry
open HeaderTypes.TypeName HeaderTypes.Action Declaration

/-- No primitive has the dot in its name that those of signatures have. -/
def Dotless (r : Registry) : Prop :=
  ∀ d ∈ r.entries, d.shape = .primitive → '.' ∉ d.name.text.toList

instance (r : Registry) : Decidable r.Dotless :=
  inferInstanceAs (Decidable (∀ d ∈ r.entries, d.shape = .primitive → '.' ∉ d.name.text.toList))

theorem Registration.dotless {tags : Tags} {r : Registry} {block : StructBlock}
    (reg : Registration tags r block) (dotless : r.Dotless) : reg.registry.Dotless := by
  intro d member primitive
  rcases reg.mem_registry member with old | new | rfl
  · exact dotless d old primitive
  · obtain ⟨_, _, _, _, rfl, _⟩ := reg.signature_of_mem new
    cases primitive
  · cases primitive

/-- No key of a struct that is not registered is taken, whatever its field is called. -/
theorem WellFormed.not_has_ofSignature {r : Registry} (wellFormed : r.WellFormed)
    (dotless : r.Dotless) {struct : String} (named : Text.isName struct.toList)
    (free : r.has struct = false) (field : String) :
    r.has (ofSignature struct field) = false := by
  refine not_has_iff.mpr fun d member same => ?_
  rcases wellFormed.kinds d member with primitive | isStruct | signature
  · have dotted : '.' ∈ (ofSignature struct field).toList := by simp [toList_ofSignature]
    refine dotless d member primitive ?_
    rw [same]
    exact dotted
  · obtain ⟨name, called, isName⟩ := wellFormed.named d member isStruct
    rw [called] at same
    exact ofSignature_ne_name isName (congrArg Text.Loose.text same).symm
  · exact Bool.false_ne_true (free.symm.trans (wellFormed.has_owner member signature named same))

section
variable {tags : Tags} {r : Registry} {struct body : String}
  {parts : List (Field × Option Descriptor)}

theorem names_of_reads (reads : List.Forall₂ (Reads tags r struct) (statements body) parts) :
    (parts.filterMap (·.2)).map (·.name) =
      (pointerNames body).map fun field => (ofSignature struct field : Text.Loose) := by
  rw [filterMap_of_reads reads, pointerNames, List.map_filterMap, List.map_filterMap]
  refine List.filterMap_congr fun statement _ => ?_
  cases ofStatement? statement with
  | none => rfl
  | some d => cases d <;> rfl

/-- The name that is taken is that of the function pointer that comes again first, where no name
is taken by an entry. -/
theorem firstTaken?_eq_some_iff {ds : List Descriptor} {names seen : List String}
    (owner : Text.isName struct.toList) (distinct : seen.Nodup)
    (called : ds.map (·.name) = names.map fun field => (ofSignature struct field : Text.Loose))
    (free : ∀ d ∈ ds, r.contains d.name = false) {name : String} :
    r.firstTaken? (seen.map fun field => (ofSignature struct field : Text.Loose)) ds = some name ↔
      ∃ field, FirstRepeat (seen.reverse ++ names) field ∧ name = ofSignature struct field := by
  -- the names that were seen and those to come are one list, which stays the same at each step
  induction ds generalizing names seen with
  | nil =>
    cases List.map_eq_nil_iff.mp called.symm
    rw [List.append_nil]
    constructor
    · nofun
    · rintro ⟨field, repeated, -⟩
      exact absurd (List.nodup_reverse.mpr distinct) (exists_firstRepeat_iff.mp ⟨field, repeated⟩)
  | cons d ds ih =>
    obtain ⟨field, names, rfl, first, others⟩ := List.map_eq_cons_iff.mp called.symm
    have first : (ofSignature struct field : Text.Loose) = d.name := first
    obtain ⟨free, later⟩ := List.forall_mem_cons.mp free
    have seen_iff : d.name ∈ seen.map (fun field => (ofSignature struct field : Text.Loose)) ↔
        field ∈ seen := by
      rw [← first]
      refine ⟨fun listed => ?_, fun listed => List.mem_map.mpr ⟨field, listed, rfl⟩⟩
      obtain ⟨other, listed, same⟩ := List.mem_map.mp listed
      exact (ofSignature_inj owner owner (congrArg Text.Loose.text same)).2 ▸ listed
    rw [firstTaken?, free, Bool.or_false]
    by_cases again : field ∈ seen
    · have repeated : FirstRepeat (seen.reverse ++ field :: names) field :=
        ⟨seen.reverse, names, rfl, List.mem_reverse.mpr again, List.nodup_reverse.mpr distinct⟩
      rw [if_pos (List.contains_iff_mem.mpr (seen_iff.mpr again)), ← first]
      constructor
      · rintro ⟨⟩
        exact ⟨field, repeated, rfl⟩
      · rintro ⟨other, repeated', rfl⟩
        rw [repeated.unique repeated']
    · have fresh := mt (fun listed => seen_iff.mp (List.contains_iff_mem.mp listed)) again
      have rest := ih (List.nodup_cons.mpr ⟨again, distinct⟩) others.symm later
      rw [List.map_cons, first, List.reverse_cons, List.append_assoc, List.singleton_append] at rest
      rw [if_neg fresh, rest]

theorem Unread.ends {statements : List String} {cause : Failure}
    (unread : Unread tags r struct statements cause) :
    (readEach tags struct statements).Ends r (.error cause) r := by
  induction unread with
  | here ends => exact ends.bind_error
  | later reads _ ih => exact (readField_ends_iff.mpr ⟨reads, rfl⟩).bind ih.bind_error

theorem Refuses.ends {block : StructBlock} {cause : Failure}
    (refuses : Refuses tags r block cause) :
    (addFields tags block.name block.body).Ends r (.error cause) r := by
  cases refuses with
  | unread unread => exact unread.ends.bind_error
  | taken reads taken =>
    refine (readEach_ends_iff.mpr ⟨reads, rfl⟩).bind ?_
    rw [ends_get_bind_iff, taken]
    exact ends_refuse_iff.mpr ⟨rfl, rfl⟩

/-- A struct that is not registered is refused for a function pointer that comes again, if all its
statements can be read, and for no other name that is taken. -/
theorem WellFormed.refuses_duplicateType_iff (wellFormed : r.WellFormed) (dotless : r.Dotless)
    {block : StructBlock} (named : Text.isName block.name.toList) (free : r.has block.name = false)
    {name : String} :
    Refuses tags r block (.duplicateType name) ↔
      (∃ parts, (readEach tags block.name (statements block.body)).Ends r (.ok parts) r) ∧
        ∃ field, FirstRepeat (pointerNames block.body) field ∧
          name = ofSignature block.name field := by
  have taken_iff {parts : List (Field × Option Descriptor)}
      (reads : List.Forall₂ (Reads tags r block.name) (statements block.body) parts) :
      r.firstTaken? [] (parts.filterMap (·.2)) = some name ↔
        ∃ field, FirstRepeat (pointerNames block.body) field ∧
          name = ofSignature block.name field := by
    refine firstTaken?_eq_some_iff named .nil (names_of_reads reads) fun d listed => ?_
    obtain ⟨field, isName, called⟩ := name_of_reads reads listed
    rw [called, contains, key, Text.Loose.mapText, canonical_ofSignature named isName]
    exact wellFormed.not_has_ofSignature dotless named free field
  constructor
  · intro refuses
    cases refuses with
    | unread unread =>
      rcases unread.cause_cases with ⟨_, _, same⟩ | ⟨_, _, same⟩ <;> cases same
    | taken reads taken =>
      exact ⟨⟨_, readEach_ends_iff.mpr ⟨reads, rfl⟩⟩, (taken_iff reads).mp taken⟩
  · rintro ⟨⟨parts, read⟩, repeated⟩
    obtain ⟨reads, -⟩ := readEach_ends_iff.mp read
    exact .taken reads ((taken_iff reads).mpr repeated)

end

end Registry

namespace Scan
open HeaderTypes.TypeName HeaderTypes.Action Registry Declaration

/-- What is found in a header brings no primitive with it. -/
theorem Takes.dotless {scan after : Scan} {findings : List Finding} {names : List String}
    (takes : Takes scan findings names after) (dotless : scan.registry.Dotless) :
    after.registry.Dotless := by
  induction takes with
  | done => exact dotless
  | forward _ ih => exact ih dotless
  | block first _ ih =>
    cases first with
    | skip => exact ih dotless
    | register reg => exact ih (reg.dotless dotless)

theorem takes_of_ends {scan after : Scan} {origin : String} {findings : List Finding}
    {names : List String} (thawed : scan.registry.frozen = false)
    (named : ∀ finding ∈ findings, finding.Named)
    (ends : (takeFindings origin findings).Ends scan (.ok names) after) :
    Takes scan findings names after := by
  rcases takeFindings_cases origin scan thawed named with ⟨names', after', takes⟩ |
    ⟨cause, after', _, _, _, _, refused, _⟩
  · obtain ⟨same, rfl⟩ := ends.unique (takes.ends origin thawed named)
    cases same
    exact takes
  · cases (ends.unique refused).1

/-- Taking findings stops at a block as the block alone does. -/
theorem takeFindings_ends_of_refuses {scan here : Scan} {origin : String} {before : List Finding}
    {names : List String} (taken : (takeFindings origin before).Ends scan (.ok names) here)
    {block : StructBlock} (named : Text.isName block.name.toList)
    (free : here.registry.has block.name = false) {cause : Failure}
    (refuses : Refuses here.tags here.registry block cause) (later : List Finding) :
    (takeFindings origin (before ++ .block block :: later)).Ends scan (.error cause) here := by
  have stopped : (takeFindings origin (.block block :: later)).Ends here (.error cause) here :=
    (takeBlock_ends_of_refuses origin named free refuses.ends).bind_error
  exact takeFindings_append taken stopped

theorem named_of_split {text : String} {before later : List Finding} {block : StructBlock}
    (split : Header.findings text = before ++ .block block :: later) :
    (∀ finding ∈ before, finding.Named) ∧ Text.isName block.name.toList := by
  have named := Header.named_of_mem_findings text
  rw [split] at named
  obtain ⟨early, rest⟩ := List.forall_mem_append.mp named
  exact ⟨early, rest _ List.mem_cons_self⟩

/-- A scan of a header comes to a block that it does not skip and can read all statements of. -/
structure ReadsBlock (scan : Scan) (text origin : String) (block : StructBlock) (here : Scan) :
    Prop where
  thawed : scan.registry.frozen = false
  reached : ∃ before later names, Header.findings text = before ++ .block block :: later ∧
    (takeFindings origin before).Ends scan.starting (.ok names) here
  unskipped : here.registry.contains block.name = false
  read : ∃ parts, (readEach here.tags block.name (statements block.body)).Ends here.registry
    (.ok parts) here.registry

section
variable {scan after : Scan} {text origin name : String} (wellFormed : scan.registry.WellFormed)
  (dotless : scan.registry.Dotless)
include wellFormed dotless

theorem exists_readsBlock (thawed : scan.registry.frozen = false)
    (refused : (takeHeader text origin).Ends scan (.error (.duplicateType name)) after) :
    ∃ block, scan.ReadsBlock text origin block after ∧
      ∃ field, FirstRepeat (pointerNames block.body) field ∧
        name = ofSignature block.name field := by
  rcases takeHeader_cases scan thawed text origin with ⟨_, _, ends, _⟩ |
    ⟨cause, here, before, failing, later, names, ends, split, takes, stops⟩
  · cases (refused.unique ends).1
  obtain ⟨same, rfl⟩ := refused.unique ends
  cases same
  cases stops with
  | @block block _ free refuses =>
    obtain ⟨early, named⟩ := named_of_split split
    obtain ⟨read, repeated⟩ := (WellFormed.refuses_duplicateType_iff
      (wellFormed.of_grows takes.grows.1) (takes.dotless dotless) named free).mp refuses
    have unskipped : after.registry.contains block.name = false := by
      rwa [contains_of_isName named]
    have taken := takes.ends origin thawed early
    exact ⟨block, ⟨thawed, ⟨before, later, names, split, taken⟩, unskipped, read⟩, repeated⟩

theorem ReadsBlock.takeHeader_ends {block : StructBlock}
    (reads : scan.ReadsBlock text origin block after) {field : String}
    (repeated : FirstRepeat (pointerNames block.body) field) :
    (takeHeader text origin).Ends scan
      (.error (.duplicateType (ofSignature block.name field))) after := by
  obtain ⟨before, later, names, split, taken⟩ := reads.reached
  obtain ⟨early, named⟩ := named_of_split split
  have free : after.registry.has block.name = false := by
    rw [← contains_of_isName named, reads.unskipped]
  have thawed : scan.starting.registry.frozen = false := reads.thawed
  have takes := takes_of_ends thawed early taken
  have refuses := (WellFormed.refuses_duplicateType_iff
    (wellFormed.of_grows takes.grows.1) (takes.dotless dotless) named free).mpr
      ⟨reads.read, field, repeated, rfl⟩
  have stopped := takeFindings_ends_of_refuses taken named free refuses later
  rw [← split] at stopped
  exact (takeHeader_ends_iff reads.thawed).mpr (Or.inr ⟨_, stopped, rfl⟩)

end

/-- A name is found to be taken exactly where the scan of a header comes to a struct that it does
not skip, can read all its statements, and a function pointer comes again among them. The name is
that of the one that comes again first. Nothing else has the key of a function pointer of a struct
that is not registered, whatever headers were scanned before and however they ended. -/
theorem takeHeader_duplicate {tags : Tags} {check : SyntaxCheck} {scan : Scan}
    (reach : Reach (fresh tags check) scan) (dotless : scan.registry.Dotless)
    (text origin : String) :
    (∀ name after, (takeHeader text origin).Ends scan (.error (.duplicateType name)) after ↔
      ∃ block, scan.ReadsBlock text origin block after ∧
        ∃ field, FirstRepeat (pointerNames block.body) field ∧
          name = ofSignature block.name field) ∧
    (∀ body, (∃ field, FirstRepeat (pointerNames body) field) ↔ ¬ (pointerNames body).Nodup) ∧
    ∀ struct : String, Text.isName struct.toList → scan.registry.contains struct = false →
      ∀ field, scan.registry.has (ofSignature struct field) = false := by
  have wellFormed := wellFormed_of_reach tags check reach
  refine ⟨fun name after => ⟨fun refused => ?_, ?_⟩, fun body => exists_firstRepeat_iff, ?_⟩
  · cases thawed : scan.registry.frozen with
    | true => cases (refused.unique (takeHeader_ends_of_frozen thawed text origin)).1
    | false => exact exists_readsBlock wellFormed dotless thawed refused
  · rintro ⟨block, reads, field, repeated, rfl⟩
    exact reads.takeHeader_ends wellFormed dotless repeated
  · intro struct named free
    rw [contains_of_isName named] at free
    exact wellFormed.not_has_ofSignature dotless named free

/-- A struct that was refused before, with two function pointers now that come again. The second
of them in the order of the declarations comes again first. -/
def repeatedHeader : String :=
  "typedef struct { int (T *g)(int); void (T *f)(void); int (T *f)(int); int (T *g)(); } s_t;"

theorem takeHeader_duplicate_repeatedHeader :
    Reach (fresh none .off) brokenRun ∧ brokenRun.registry.Dotless ∧
      ∃ after,
        (takeHeader repeatedHeader "h").Ends brokenRun (.error (.duplicateType "s_t.f")) after ∧
        ∃ block, brokenRun.ReadsBlock repeatedHeader "h" block after ∧
          ∃ field, FirstRepeat (pointerNames block.body) field ∧
            "s_t.f" = ofSignature block.name field := by
  have dotless : brokenRun.registry.Dotless := by decide +kernel
  have ends : (takeHeader repeatedHeader "h").Ends brokenRun (.error (.duplicateType "s_t.f"))
      ((takeHeader repeatedHeader "h").run brokenRun).state := ⟨by decide +kernel, rfl⟩
  obtain ⟨exact_iff, -, -⟩ := takeHeader_duplicate reach_brokenRun dotless repeatedHeader "h"
  exact ⟨reach_brokenRun, dotless, _, ends, (exact_iff _ _).mp ends⟩

end Scan

end HeaderTypes
