import HeaderTypes.Proofs.Scan.Blocks

namespace HeaderTypes.Scan
open HeaderTypes.Action Registry

/-- A scan whose first header has been begun. -/
def starting (scan : Scan) : Scan := { scan with started := true }

/-- A scan that has come to the end of a header. -/
def finishing (scan : Scan) : Scan :=
  { scan with stats := { scan.stats with headersScanned := scan.stats.headersScanned + 1 } }

theorem isAside_finishing : IsAside finishing := ⟨id, id, (· + 1), id, fun _ => rfl⟩

/-- A block only appends to the registry, and what it appends has the struct
that it names and no other. -/
theorem TakesBlock.appends {scan after : Scan} {block : StructBlock} {added : List String}
    (takes : TakesBlock scan block added after) :
    ∃ appended, after.registry = scan.registry.extend appended ∧
      added.map (fun name : String => (name : Text.Loose)) =
        (appended.filter (·.isStruct)).map (·.name) := by
  cases takes with
  | skip => exact ⟨[], (extend_nil _).symm, rfl⟩
  | register reg =>
    refine ⟨reg.signatures ++ [reg.struct], rfl, ?_⟩
    have none : reg.signatures.filter (·.isStruct) = [] :=
      List.filter_eq_nil_iff.mpr fun d member => reg.not_isStruct_of_mem_signatures member
    rw [List.filter_append, none]
    rfl

theorem Takes.appends {scan after : Scan} {findings : List Finding} {names : List String}
    (takes : Takes scan findings names after) :
    ∃ appended, after.registry = scan.registry.extend appended ∧
      names.map (fun name : String => (name : Text.Loose)) =
        (appended.filter (·.isStruct)).map (·.name) := by
  induction takes with
  | done => exact ⟨[], (extend_nil _).symm, rfl⟩
  | forward _ ih => exact ih
  | block first _ ih =>
    obtain ⟨early, grown, firstNames⟩ := first.appends
    obtain ⟨late, grown', lastNames⟩ := ih
    refine ⟨early ++ late, by rw [grown', grown, extend_extend], ?_⟩
    rw [List.map_append, firstNames, lastNames, List.filter_append, List.map_append]

/-- Scanning a header ends as taking its findings does. Only a scan that comes
to the end counts the header. -/
theorem takeHeader_ends_iff {scan after : Scan} {text origin : String}
    {result : Except Failure (List String)} (thawed : scan.registry.frozen = false) :
    (takeHeader text origin).Ends scan result after ↔
      (∃ names between,
        (takeFindings origin (Header.findings text)).Ends scan.starting (.ok names) between ∧
        .ok names = result ∧ between.finishing = after) ∨
      (∃ cause, (takeFindings origin (Header.findings text)).Ends scan.starting (.error cause) after ∧
        .error cause = result) := by
  simp only [takeHeader, ends_get_bind_iff, thawed, Bool.false_eq_true, if_false,
    ends_update_bind_iff]
  rw [ends_bind_iff]
  simp only [ends_tellingRefusal_iff, count, ends_update_bind_iff, ends_tell_bind_iff]
  exact Iff.rfl

/-- A header is taken to its end, or up to a finding at which the scan stops. -/
theorem takeHeader_cases (scan : Scan) (thawed : scan.registry.frozen = false)
    (text origin : String) :
    (∃ names between, (takeHeader text origin).Ends scan (.ok names) between.finishing ∧
      Takes scan.starting (Header.findings text) names between) ∨
    (∃ cause after before failing later names,
      (takeHeader text origin).Ends scan (.error cause) after ∧
      Header.findings text = before ++ failing :: later ∧
      Takes scan.starting before names after ∧ Stops after failing cause) := by
  have named := Header.named_of_mem_findings text
  rcases takeFindings_cases origin scan.starting thawed named with ⟨names, between, takes⟩ |
    ⟨cause, after, before, failing, later, names, refused, split, takes, stops⟩
  · have ends := takes.ends origin thawed named
    exact Or.inl ⟨names, between,
      (takeHeader_ends_iff thawed).mpr (Or.inl ⟨names, between, ends, rfl, rfl⟩), takes⟩
  · exact Or.inr ⟨cause, after, before, failing, later, names,
      (takeHeader_ends_iff thawed).mpr (Or.inr ⟨cause, refused, rfl⟩), split, takes, stops⟩

/-- A header is scanned up to the first finding at which the scan stops, and
what is left is what taking the findings before it leaves: each of them was
skipped or registered as a whole, and of the one at which it stops nothing is
kept. A header that is scanned to its end names the structs that it appended. -/
theorem takeHeader_atomic (scan : Scan) (thawed : scan.registry.frozen = false)
    (text origin : String) :
    (∀ cause after, (takeHeader text origin).Ends scan (.error cause) after →
      ∃ before failing later names, Header.findings text = before ++ failing :: later ∧
        (takeFindings origin before).Ends scan.starting (.ok names) after ∧
        Takes scan.starting before names after ∧ Stops after failing cause ∧
        after.stats.headersScanned = scan.stats.headersScanned) ∧
    (∀ names after, (takeHeader text origin).Ends scan (.ok names) after →
      (∃ between, Takes scan.starting (Header.findings text) names between ∧
        after = between.finishing) ∧
      ∃ appended, after.registry.entries = scan.registry.entries ++ appended ∧
        names.map (fun name : String => (name : Text.Loose)) =
          (appended.filter (·.isStruct)).map (·.name)) := by
  rcases takeHeader_cases scan thawed text origin with ⟨names, between, ends, takes⟩ |
    ⟨cause, after, before, failing, later, names, ends, split, takes, stops⟩
  · constructor
    · intro cause after refused
      cases (ends.unique refused).1
    · intro names' after ends'
      obtain ⟨same, rfl⟩ := ends.unique ends'
      cases same
      obtain ⟨appended, grown, named⟩ := takes.appends
      exact ⟨⟨between, takes, rfl⟩, appended, congrArg Registry.entries grown, named⟩
  · constructor
    · intro cause' after' refused
      obtain ⟨same, rfl⟩ := ends.unique refused
      cases same
      have named : ∀ finding ∈ before, finding.Named := fun finding member =>
        Header.named_of_mem_findings text finding (split ▸ List.mem_append_left _ member)
      exact ⟨before, failing, later, names, split, takes.ends origin thawed named, takes, stops,
        takes.headersScanned_eq⟩
    · intro names' after' ends'
      cases (ends.unique ends').1

/-- A scan that knows one primitive. -/
def ofInt : Scan := { registry := { entries := [.primitive "int" true] } }

/-- Two definitions, of which the second names an unknown type behind a function pointer. -/
def brokenHeader : String :=
  "typedef struct { int a; } a_t;\ntypedef struct { void (T *f)(void); nope_t x; } s_t;"

theorem takeHeader_atomic_brokenHeader :
    ofInt.registry.frozen = false ∧
      ∃ after, (takeHeader brokenHeader "h").Ends ofInt
          (.error (.unknownType ⟨"s_t", "nope_t", none, "field"⟩)) after ∧
        after.registry.entries =
          [.primitive "int" true, .struct "a_t" [⟨"int", "a"⟩] true] ∧
        ∃ before failing later names,
          Header.findings brokenHeader = before ++ failing :: later ∧
            (takeFindings "h" before).Ends ofInt.starting (.ok names) after ∧
            Takes ofInt.starting before names after ∧
            Stops after failing (.unknownType ⟨"s_t", "nope_t", none, "field"⟩) ∧
            after.stats.headersScanned = 0 := by
  have ends : (takeHeader brokenHeader "h").Ends ofInt
      (.error (.unknownType ⟨"s_t", "nope_t", none, "field"⟩))
      ((takeHeader brokenHeader "h").run ofInt).state := ⟨by decide +kernel, rfl⟩
  exact ⟨rfl, _, ends, by decide +kernel,
    (takeHeader_atomic ofInt rfl brokenHeader "h").1 _ _ ends⟩

end HeaderTypes.Scan
