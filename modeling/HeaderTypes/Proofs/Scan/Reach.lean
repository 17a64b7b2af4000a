import HeaderTypes.Proofs.Registry.Growth
import HeaderTypes.Proofs.Scan.Atomicity

namespace HeaderTypes

/-- The number of syntax errors that are told of a header. -/
def SyntaxCheck.errors : SyntaxCheck → String → Nat
  | .off, _ => 0
  | .grammar rules, text => rules.errorCount text
  | .counted counts, _ => counts.headD 0

/-- The check for the headers behind it. -/
def SyntaxCheck.next : SyntaxCheck → SyntaxCheck
  | .counted counts => .counted counts.tail
  | check => check

namespace Scan
open HeaderTypes.Action Registry Relation

/-- What can be asked of a scan. -/
inductive Operation
  | primitive (name : Text.Loose) (compatible : Bool)
  | primitives (all : List (Text.Loose × Bool))
  | header (text origin : String)
  | file (files : Files.Tree) (path : Text.Loose)
  | structs
  | model

/-- The scan that an operation leaves behind, whether it refuses or not. -/
def Operation.after : Operation → Scan → Scan
  | primitive name compatible, scan => ((insertPrimitive name compatible).run scan).state
  | primitives all, scan => ((insertPrimitives all).run scan).state
  | header text origin, scan => ((takeHeader text origin).run scan).state
  | file files path, scan => ((takeFile files path).run scan).state
  | structs, scan => (close.run scan).state
  | model, scan => (finish.run scan).state

/-- Scans that operations lead to, in any order and number. -/
inductive Reach (initial : Scan) : Scan → Prop
  | start : Reach initial initial
  | next {scan} (operation : Operation) : Reach initial scan → Reach initial (operation.after scan)

/-- A scan of which nothing has been asked. -/
def fresh (tags : Tags) (check : SyntaxCheck) : Scan := { tags, check }

/-- The scan that primitives leave behind before the first header. -/
def seeded (primitives : List (Text.Loose × Bool)) (tags : Tags) (check : SyntaxCheck) : Scan :=
  { fresh tags check with registry := Registry.seeded primitives }

theorem insertPrimitives_ends_size (primitives : List (Text.Loose × Bool)) (tags : Tags)
    (check : SyntaxCheck) :
    (insertPrimitives primitives).Ends (fresh tags check) (.ok (Registry.seeded primitives).size)
      (seeded primitives tags check) := by
  obtain ⟨count, each, size⟩ := insertEach_ends_foldl primitives (r := {}) rfl
  have all : (Registry.insertPrimitives primitives).Ends {} (.ok count)
      (Registry.seeded primitives) :=
    each.bind (ends_tell_bind_iff.mpr (ends_pure_iff.mpr ⟨rfl, rfl⟩))
  have same : (Registry.seeded primitives).size = count := size.trans (Nat.zero_add count)
  rw [same]
  exact ends_get_bind_iff.mpr ((onRegistry_ends_iff (fresh tags check)).mpr ⟨_, all, rfl⟩)

theorem insertPrimitives_ends_seeded (primitives : List (Text.Loose × Bool)) (tags : Tags)
    (check : SyntaxCheck) :
    ∃ count, (insertPrimitives primitives).Ends (fresh tags check) (.ok count)
      (seeded primitives tags check) :=
  ⟨_, insertPrimitives_ends_size primitives tags check⟩

theorem reach_seeded (primitives : List (Text.Loose × Bool)) (tags : Tags) (check : SyntaxCheck) :
    Reach (fresh tags check) (seeded primitives tags check) := by
  obtain ⟨count, seeds⟩ := insertPrimitives_ends_seeded primitives tags check
  have left : (Operation.primitives primitives).after (fresh tags check) =
      seeded primitives tags check := seeds.2
  exact left ▸ .next (.primitives primitives) .start

/-- As long as primitives are accepted, nothing else is registered. -/
def Ready (scan : Scan) : Prop := scan.started = false → scan.registry.Primitive

theorem TakesBlock.grows {scan after : Scan} {block : StructBlock} {added : List String}
    (takes : TakesBlock scan block added after) :
    ReflTransGen Grows scan.registry after.registry ∧ after.started = scan.started := by
  cases takes with
  | skip => exact ⟨.refl, rfl⟩
  | register reg => exact ⟨.single (.struct reg), rfl⟩

theorem Takes.grows {scan after : Scan} {findings : List Finding} {names : List String}
    (takes : Takes scan findings names after) :
    ReflTransGen Grows scan.registry after.registry ∧ after.started = scan.started := by
  induction takes with
  | done => exact ⟨.refl, rfl⟩
  | forward _ ih => exact ih
  | block first _ ih => exact ⟨first.grows.1.trans ih.1, ih.2.trans first.grows.2⟩

theorem takeHeader_ends_of_frozen {scan : Scan} (frozen : scan.registry.frozen = true)
    (text origin : String) :
    (takeHeader text origin).Ends scan (.error (.lateHeader origin)) scan := by
  simp only [takeHeader, ends_get_bind_iff, frozen, if_true]
  exact ends_refuse_iff.mpr ⟨rfl, rfl⟩

/-- A header is scanned to its end exactly when all that is found in it is taken. -/
theorem takeHeader_ok_iff {scan after : Scan} {text origin : String} {names : List String} :
    (takeHeader text origin).Ends scan (.ok names) after ↔
      scan.registry.frozen = false ∧
        ∃ between, Takes scan.starting (Header.findings text) names between ∧
          between.finishing = after := by
  constructor
  · intro ends
    cases thawed : scan.registry.frozen with
    | true => cases (ends.unique (takeHeader_ends_of_frozen thawed text origin)).1
    | false =>
      rcases takeHeader_cases scan thawed text origin with ⟨_, between, ends', takes⟩ |
        ⟨_, _, _, _, _, _, refused, _⟩
      · obtain ⟨same, left⟩ := ends.unique ends'
        cases same
        exact ⟨rfl, between, takes, left.symm⟩
      · cases (ends.unique refused).1
  · rintro ⟨thawed, between, takes, rfl⟩
    have taken := takes.ends origin thawed (Header.named_of_mem_findings text)
    exact (takeHeader_ends_iff thawed).mpr (Or.inl ⟨names, between, taken, rfl, rfl⟩)

/-- A header leaves a scan as it is, or it takes what was found up to where the scan ends. -/
theorem takeHeader_takes {scan after : Scan} {text origin : String}
    {result : Except Failure (List String)} (ends : (takeHeader text origin).Ends scan result after) :
    after = scan ∨ ∃ taken names between, taken <+: Header.findings text ∧
      Takes scan.starting taken names between ∧ (after = between ∨ after = between.finishing) := by
  cases frozen : scan.registry.frozen with
  | true => exact Or.inl (ends.unique (takeHeader_ends_of_frozen frozen text origin)).2
  | false =>
    rcases takeHeader_cases scan frozen text origin with ⟨names, between, ends', takes⟩ |
      ⟨cause, between, taken, failing, later, names, ends', split, takes, -⟩
    · obtain ⟨-, rfl⟩ := ends.unique ends'
      exact Or.inr ⟨_, names, between, List.prefix_rfl, takes, Or.inr rfl⟩
    · obtain ⟨-, rfl⟩ := ends.unique ends'
      exact Or.inr ⟨taken, names, after, ⟨_, split.symm⟩, takes, Or.inl rfl⟩

/-- A header only lets the registry grow. Unless it is refused as a whole, no
primitive is accepted after it. -/
theorem takeHeader_grows {scan after : Scan} {text origin : String}
    {result : Except Failure (List String)} (ends : (takeHeader text origin).Ends scan result after) :
    after = scan ∨
      ReflTransGen Grows scan.registry after.registry ∧ after.started = true := by
  rcases takeHeader_takes ends with same | ⟨_, _, _, _, takes, rfl | rfl⟩
  · exact Or.inl same
  · exact Or.inr takes.grows
  · exact Or.inr takes.grows

/-- A header is refused because the registry is frozen, or for something that was found in it. -/
theorem takeHeader_error_cases {scan after : Scan} {text origin : String} {cause : Failure}
    (refused : (takeHeader text origin).Ends scan (.error cause) after) :
    (scan.registry.frozen = true ∧ cause = .lateHeader origin) ∨
      ∃ finding ∈ Header.findings text, finding.RefusedFor cause := by
  cases frozen : scan.registry.frozen with
  | true =>
    cases (refused.unique (takeHeader_ends_of_frozen frozen text origin)).1
    exact Or.inl ⟨rfl, rfl⟩
  | false =>
    rcases takeHeader_cases scan frozen text origin with ⟨names, between, ends, _⟩ |
      ⟨cause, after, before, failing, later, names, ends, split, _, stops⟩
    · cases (refused.unique ends).1
    · cases (refused.unique ends).1
      have member : failing ∈ Header.findings text := by
        rw [split]
        exact List.mem_append_right _ List.mem_cons_self
      exact Or.inr ⟨failing, member, stops.refusedFor⟩

theorem Ready.header {scan after : Scan} (ready : scan.Ready) {text origin : String}
    {result : Except Failure (List String)} (ends : (takeHeader text origin).Ends scan result after) :
    ReflTransGen Grows scan.registry after.registry ∧ after.Ready := by
  rcases takeHeader_grows ends with rfl | ⟨grows, started⟩
  · exact ⟨.refl, ready⟩
  · exact ⟨grows, fun unstarted => absurd unstarted (by simp [started])⟩

/-- A scan that has looked for the syntax errors of a header. -/
def diagnosed (scan : Scan) (check : SyntaxCheck) (errors : Nat) : Scan :=
  { scan with check, stats := { scan.stats with syntaxErrors := errors } }

theorem isAside_diagnosed (check : SyntaxCheck) (errors : Nat) :
    IsAside (diagnosed · check errors) :=
  ⟨fun _ => check, id, id, fun _ => errors, fun _ => rfl⟩

/-- Looking for syntax errors touches nothing but the check, and is never refused. -/
theorem errorCount_ends (scan : Scan) (text : String) :
    (errorCount text).Ends scan (.ok (scan.check.errors text)) { scan with check := scan.check.next } := by
  obtain ⟨registry, tags, check, stats, started⟩ := scan
  cases check with
  | off => exact ⟨rfl, rfl⟩
  | grammar rules => exact ⟨rfl, rfl⟩
  | counted counts =>
    cases counts with
    | nil => exact ⟨rfl, rfl⟩
    | cons first counts => exact ⟨rfl, rfl⟩

/-- The text of the header at a path, if there is a file and it holds text. -/
def headerText? (files : Files.Tree) (path : Text.Loose) : Option String :=
  (files.file? path).bind fun content =>
    (Text.decodeUtf8 content).toOption.map fun s => String.ofList (Text.unifyNewlines s)

section
variable {scan after : Scan} {files : Files.Tree} {path : Text.Loose}
  {result : Except Failure (List String)}

theorem takeFile_ends_of_missing (missing : files.file? path = none) :
    (takeFile files path).Ends scan (.error (.headerNotFound path.text)) scan := by
  simp only [takeFile, missing]
  exact ends_refuse_iff.mpr ⟨rfl, rfl⟩

theorem takeFile_ends_of_undecodable {content : List UInt8} {fault : Text.Utf8Fault}
    (found : files.file? path = some content) (undecodable : Text.decodeUtf8 content = .error fault) :
    (takeFile files path).Ends scan (.error (.undecodable fault)) scan := by
  simp only [takeFile, found, undecodable]
  exact ends_refuse_iff.mpr ⟨rfl, rfl⟩

theorem missing_or_undecodable (unread : headerText? files path = none) :
    files.file? path = none ∨ ∃ content fault,
      files.file? path = some content ∧ Text.decodeUtf8 content = .error fault := by
  cases found : files.file? path with
  | none => exact Or.inl rfl
  | some content =>
    cases decode : Text.decodeUtf8 content with
    | error fault => exact Or.inr ⟨content, fault, rfl, decode⟩
    | ok s =>
      rw [headerText?, found, Option.bind_some, decode] at unread
      cases unread

/-- The syntax errors of a file are counted before its text is scanned. -/
theorem takeFile_ends_iff_of_headerText {text : String} (read : headerText? files path = some text) :
    (takeFile files path).Ends scan result after ↔
      (takeHeader text path.text).Ends (scan.diagnosed scan.check.next
        (scan.stats.syntaxErrors + scan.check.errors text)) result after := by
  obtain ⟨content, found, read⟩ := Option.bind_eq_some_iff.mp read
  obtain ⟨s, decoded, rfl⟩ := Option.map_eq_some_iff.mp read
  cases decode : Text.decodeUtf8 content with
  | error fault =>
    rw [decode] at decoded
    cases decoded
  | ok cs =>
    rw [decode] at decoded
    cases decoded
    simp only [takeFile, found, decode]
    rw [ends_bind_of_ends (errorCount_ends scan _)]
    split
    · rw [ends_tell_bind_iff, count, ends_update_bind_iff]
      exact Iff.rfl
    · rw [count, ends_update_bind_iff]
      exact Iff.rfl

/-- A file is refused before its text is looked at, and leaves nothing behind,
or it is scanned as its text. -/
theorem takeFile_cases (ends : (takeFile files path).Ends scan result after) :
    (after = scan ∧ headerText? files path = none ∧ ∃ cause, result = .error cause ∧
      (cause = .headerNotFound path.text ∨ ∃ fault, cause = .undecodable fault)) ∨
      ∃ text check errors, headerText? files path = some text ∧
        (takeHeader text path.text).Ends (scan.diagnosed check errors) result after := by
  cases read : headerText? files path with
  | some text => exact Or.inr ⟨text, _, _, rfl, (takeFile_ends_iff_of_headerText read).mp ends⟩
  | none =>
    rcases missing_or_undecodable read with missing | ⟨content, fault, found, undecodable⟩
    · obtain ⟨rfl, rfl⟩ := ends.unique (takeFile_ends_of_missing missing)
      exact Or.inl ⟨rfl, rfl, _, rfl, Or.inl rfl⟩
    · obtain ⟨rfl, rfl⟩ := ends.unique (takeFile_ends_of_undecodable found undecodable)
      exact Or.inl ⟨rfl, rfl, _, rfl, Or.inr ⟨fault, rfl⟩⟩

end

theorem Ready.file {scan after : Scan} (ready : scan.Ready) {files : Files.Tree} {path : Text.Loose}
    {result : Except Failure (List String)} (ends : (takeFile files path).Ends scan result after) :
    ReflTransGen Grows scan.registry after.registry ∧ after.Ready := by
  rcases takeFile_cases ends with ⟨rfl, _⟩ | ⟨text, check, errors, _, ends⟩
  · exact ⟨.refl, ready⟩
  · have ready' : (scan.diagnosed check errors).Ready := ready
    exact ready'.header ends

/-- Primitives are refused once a header was begun, and until then the registry takes them. -/
theorem seeding_cases {α : Type} {scan after : Scan} {action : Action Registry α} {late : Failure}
    {result : Except Failure α}
    (ends : (Action.get >>= fun scan : Scan =>
      if scan.started then refuse late else onRegistry action).Ends scan result after) :
    after = scan ∨
      scan.started = false ∧
        ∃ registry, action.Ends scan.registry result registry ∧ { scan with registry } = after := by
  rw [ends_get_bind_iff] at ends
  by_cases started : scan.started
  · rw [if_pos started] at ends
    obtain ⟨_, rfl⟩ := ends
    exact Or.inl rfl
  · rw [if_neg started] at ends
    exact Or.inr ⟨Bool.eq_false_iff.mpr started, (onRegistry_ends_iff scan).mp ends⟩

theorem seeding_keeps {α : Type} {scan after : Scan} {action : Action Registry α} {late : Failure}
    {result : Except Failure α}
    (ends : (Action.get >>= fun scan : Scan =>
      if scan.started then refuse late else onRegistry action).Ends scan result after) :
    after.stats = scan.stats ∧ after.started = scan.started := by
  rcases seeding_cases ends with rfl | ⟨_, _, _, rfl⟩
  · exact ⟨rfl, rfl⟩
  · exact ⟨rfl, rfl⟩

theorem Ready.seeding {α : Type} {scan after : Scan} (ready : scan.Ready)
    {action : Action Registry α} {late : Failure} {result : Except Failure α}
    (grows : ∀ {r later result}, r.Primitive → action.Ends r result later →
      ReflTransGen Grows r later ∧ later.Primitive)
    (ends : (Action.get >>= fun scan : Scan =>
      if scan.started then refuse late else onRegistry action).Ends scan result after) :
    ReflTransGen Grows scan.registry after.registry ∧ after.Ready := by
  rcases seeding_cases ends with rfl | ⟨unstarted, registry, ends', rfl⟩
  · exact ⟨.refl, ready⟩
  · obtain ⟨growth, base⟩ := grows (ready unstarted) ends'
    exact ⟨growth, fun _ => base⟩

theorem Ready.close {scan after : Scan} (ready : scan.Ready)
    {result : Except Failure (List Descriptor)} (ends : close.Ends scan result after) :
    ReflTransGen Grows scan.registry after.registry ∧ after.Ready := by
  obtain ⟨registry, ends', rfl⟩ := (onRegistry_ends_iff scan).mp ends
  obtain ⟨_, rfl⟩ := close_ends_iff.mp ends'
  exact ⟨.single .freeze, ready⟩

/-- Every operation only lets the registry grow. -/
theorem Ready.after {scan : Scan} (ready : scan.Ready) (operation : Operation) :
    ReflTransGen Grows scan.registry (operation.after scan).registry ∧
      (operation.after scan).Ready := by
  cases operation with
  | primitive name compatible =>
    have whole : (insertPrimitive name compatible).Ends scan _ _ := ⟨rfl, rfl⟩
    exact ready.seeding insertPrimitive_grows whole
  | primitives all =>
    have whole : (insertPrimitives all).Ends scan _ _ := ⟨rfl, rfl⟩
    exact ready.seeding insertPrimitives_grows whole
  | header text origin => exact ready.header ⟨rfl, rfl⟩
  | file files path => exact ready.file ⟨rfl, rfl⟩
  | structs => exact ready.close ⟨rfl, rfl⟩
  | model =>
    have whole : finish.Ends scan _ _ := ⟨rfl, rfl⟩
    rcases ends_bind_iff.mp whole with ⟨structs, between, closed, ends⟩ | ⟨cause, refused, _⟩
    · rw [ends_get_bind_iff, ends_ofExcept_iff] at ends
      obtain ⟨_, left⟩ := ends
      have result := ready.close closed
      rw [left] at result
      exact result
    · exact ready.close refused

theorem Reach.grows {scan later : Scan} (reach : Reach scan later) (ready : scan.Ready) :
    ReflTransGen Grows scan.registry later.registry ∧ later.Ready := by
  induction reach with
  | start => exact ⟨.refl, ready⟩
  | next operation _ ih =>
    obtain ⟨step, ready'⟩ := ih.2.after operation
    exact ⟨ih.1.trans step, ready'⟩

theorem ready_fresh (tags : Tags) (check : SyntaxCheck) : (fresh tags check).Ready := nofun

theorem Reach.grows_of_fresh {tags : Tags} {check : SyntaxCheck} {scan : Scan}
    (reach : Reach (fresh tags check) scan) : ReflTransGen Grows {} scan.registry :=
  (reach.grows (ready_fresh tags check)).1

end Scan

end HeaderTypes
