import HeaderTypes.Proofs.Field.Grammar
import HeaderTypes.Proofs.Scan.Atomicity
import HeaderTypes.Proofs.Written.RoundTrip
import Mathlib.Data.List.Find

namespace HeaderTypes
open Text HeaderTypes.Action

namespace Written
open Registry

/-- The uses of types in a field, in the order in which they are looked up. The
return type of a function pointer comes last, unless it is `void`. Only the uses
in a function pointer are told with the name of the field. -/
def Member.references (struct : String) : Member → List UnknownType
  | direct type _ => [⟨struct, type.name, none, "field"⟩]
  | pointer returns _ name parameters =>
    parameters.map (fun p => ⟨struct, p.1.name, some name.text, "argument"⟩) ++
      if returns.name = TypeName.void then []
      else [⟨struct, returns.name, some name.text, "return"⟩]

def Struct.references (d : Struct) : List UnknownType :=
  d.members.flatMap (·.references d.name.text)

/-- The uses of types that have none of some names, nor that of a struct before
the one that they are in. -/
def forwards : (names : List String) → List Struct → List UnknownType
  | _, [] => []
  | names, d :: ds =>
    d.references.filter (·.type ∉ names) ++ forwards (names ++ [d.name.text]) ds

/-- Structs that can be told apart by their names, and the function pointers of
each by theirs. Their fields may refer to anything. -/
structure Distinct (names : List String) (ds : List Struct) : Prop where
  structs : (ds.map (·.name.text)).Nodup
  new : ∀ d ∈ ds, d.name.text ∉ names
  pointers : ∀ d ∈ ds, (d.members.filterMap (·.pointerName?)).Nodup

theorem Distinct.tail {names : List String} {d : Struct} {ds : List Struct}
    (distinct : Distinct names (d :: ds)) : Distinct (names ++ [d.name.text]) ds where
  structs := (List.nodup_cons.mp distinct.structs).2
  new e member listed := by
    rcases List.mem_append.mp listed with old | same
    · exact distinct.new e (List.mem_cons_of_mem _ member) old
    · have again : d.name.text ∈ ds.map (·.name.text) :=
        List.mem_singleton.mp same ▸ List.mem_map_of_mem member
      exact (List.nodup_cons.mp distinct.structs).1 again
  pointers e member := distinct.pointers e (List.mem_cons_of_mem _ member)

theorem mem_forwards_iff {names : List String} {ds : List Struct} {use : UnknownType} :
    use ∈ forwards names ds ↔ ∃ before d later, ds = before ++ d :: later ∧ use ∈ d.references ∧
      use.type ∉ names ∧ ∀ e ∈ before, use.type ≠ e.name.text := by
  induction ds generalizing names with
  | nil => simp [forwards]
  | cons d ds ih =>
    rw [forwards, List.mem_append, List.mem_filter, ih]
    constructor
    · rintro (⟨used, unknown⟩ | ⟨before, e, later, rfl, used, unknown, others⟩)
      · exact ⟨[], d, ds, rfl, used, of_decide_eq_true unknown, List.forall_mem_nil _⟩
      · rw [List.mem_append, List.mem_singleton, not_or] at unknown
        exact ⟨d :: before, e, later, rfl, used, unknown.1,
          List.forall_mem_cons.mpr ⟨unknown.2, others⟩⟩
    · rintro ⟨before, e, later, split, used, unknown, others⟩
      cases before with
      | nil =>
        cases split
        exact Or.inl ⟨used, decide_eq_true unknown⟩
      | cons first before =>
        cases split
        obtain ⟨other, others⟩ := List.forall_mem_cons.mp others
        refine Or.inr ⟨before, e, later, rfl, used, ?_, others⟩
        rw [List.mem_append, List.mem_singleton, not_or]
        exact ⟨unknown, other⟩

theorem Member.refers_of_references {m : Member} {names : List String} (struct : String)
    (known : ∀ use ∈ m.references struct, use.type ∈ names) : m.Refers names := by
  cases m with
  | direct type name => exact known _ List.mem_cons_self
  | pointer returns tag name parameters =>
    obtain ⟨arguments, returned⟩ := List.forall_mem_append.mp known
    refine ⟨?_, fun p member => arguments _ (List.mem_map_of_mem member)⟩
    by_cases none : returns.name = TypeName.void
    · exact Or.inl none
    · rw [if_neg none] at returned
      exact Or.inr (returned _ List.mem_cons_self)

/-- Without forward references each struct refers to names before its own. -/
theorem Distinct.ordered {names : List String} {ds : List Struct} (distinct : Distinct names ds)
    (none : forwards names ds = []) : Ordered names ds := by
  induction ds generalizing names with
  | nil => exact .nil
  | cons d ds ih =>
    obtain ⟨here, later⟩ := List.append_eq_nil_iff.mp none
    have known : ∀ use ∈ d.references, use.type ∈ names := by
      simpa using List.filter_eq_nil_iff.mp here
    refine .cons (distinct.new d List.mem_cons_self) (fun m member => ?_)
      (distinct.pointers d List.mem_cons_self) (ih distinct.tail later)
    exact Member.refers_of_references _ fun use used =>
      known use (List.mem_flatMap.mpr ⟨m, member, used⟩)

theorem known_of_find?_eq_none {uses : List UnknownType} {names : List String}
    (none : uses.find? (·.type ∉ names) = none) : ∀ use ∈ uses, use.type ∈ names := by
  simpa using List.find?_eq_none.mp none

theorem Member.uses_declaration (struct : String) (m : Member) :
    m.declaration.uses struct = m.references struct := by
  cases m with
  | direct type name => rfl
  | pointer returns tag name parameters =>
    simp only [declaration, Declaration.uses, references, List.map_map, Function.comp_def]

theorem Member.exists_type_of_mem_references {struct : String} {m : Member} {use : UnknownType}
    (used : use ∈ m.references struct) : ∃ type : TypeExpr, use.type = type.name := by
  cases m with
  | direct type name =>
    cases List.mem_singleton.mp used
    exact ⟨type, rfl⟩
  | pointer returns tag name parameters =>
    rcases List.mem_append.mp used with argument | returned
    · obtain ⟨p, -, rfl⟩ := List.mem_map.mp argument
      exact ⟨p.1, rfl⟩
    · obtain ⟨-, same⟩ := List.mem_ite_nil_left.mp returned
      cases List.mem_singleton.mp same
      exact ⟨returns, rfl⟩

section
variable {r : Registry} {names : List String} (covers : Covers r names) {use : UnknownType}
include covers

theorem firstUnknown?_references (struct : String) (m : Member) :
    r.firstUnknown? (m.references struct) = (m.references struct).find? (·.type ∉ names) := by
  refine List.find?_congr fun use used => ?_
  obtain ⟨type, same⟩ := Member.exists_type_of_mem_references used
  by_cases known : type.name ∈ names
  · simp [same, known, covers.known type.name known]
  · simp [same, known, covers.has_eq_false_of_dotless type.not_mem_name known]

/-- A field is refused for the first type in it that is not known. -/
theorem readField_of_first {tags : Tags} {struct statement : String} {m : Member}
    (read : Declaration.ofStatement? statement = some m.declaration)
    (accepted : ∀ tag ∈ m.tag?, tags.accept tag)
    (first : (m.references struct).find? (·.type ∉ names) = some use) :
    (readField tags struct statement).Ends r (.error (.unknownType use)) r := by
  have fit : m.declaration.Accepted tags := by
    cases m with
    | direct type name => exact trivial
    | pointer returns tag name parameters => exact ⟨accepted tag.text rfl, returns.name_ne_empty⟩
  have ends : (readField tags struct statement).Ends r (r.declared struct m.declaration) r :=
    readField_ends_declared read fit
  rw [declared, Member.uses_declaration, firstUnknown?_references covers, first] at ends
  exact ends

theorem readEach_of_first {tags : Tags} {struct : String} {members : List Member}
    {statements : List String} (stated : States members statements)
    (accepted : ∀ m ∈ members, ∀ tag ∈ m.tag?, tags.accept tag)
    (first : (members.flatMap (·.references struct)).find? (·.type ∉ names) = some use) :
    (readEach tags struct statements).Ends r (.error (.unknownType use)) r := by
  induction stated with
  | nil => cases first
  | @cons m statement members statements read _ ih =>
    obtain ⟨accept, accepted⟩ := List.forall_mem_cons.mp accepted
    rw [List.flatMap_cons, List.find?_append] at first
    rcases Option.or_eq_some_iff.mp first with here | ⟨none, later⟩
    · exact (readField_of_first covers read accept here).bind_error
    · have refers : m.Refers names :=
        Member.refers_of_references struct (known_of_find?_eq_none none)
      have reads : Reads tags r struct statement _ :=
        reads_of_declaration read refers covers.known accept
      exact (readField_ends_iff.mpr ⟨reads, rfl⟩).bind (ih accepted later).bind_error

end

/-- A primitive is known afterwards, whether its name was free or not. -/
theorem insertPrimitive_covers {r : Registry} {names : List String} (covers : Covers r names)
    (thawed : r.frozen = false) (type : TypeExpr) (compatible : Bool) :
    ∃ added after, (Registry.insertPrimitive type.name compatible).Ends r (.ok added) after ∧
      Covers after (names ++ [type.name]) ∧ after.frozen = false := by
  have canonical : TypeName.key (type.name : Loose) = type.name := by
    simp only [TypeName.key, Loose.mapText, type.canonical_name]
  cases taken : r.has type.name with
  | true =>
    have kept : (Registry.insert (.primitive type.name compatible)).Ends r (.ok false) r :=
      insert_ends_of_has thawed (by rw [Descriptor.primitive, canonical, taken])
    have same : Covers (r.extend []) (names ++ [type.name]) :=
      covers.append (by rw [extend_nil, taken]) (List.forall_mem_nil _)
    rw [extend_nil] at same
    exact ⟨false, r, kept.bind ⟨rfl, rfl⟩, same, thawed⟩
  | false =>
    have inserted := insert_ends_of_free (d := .primitive type.name compatible) thawed
      (by rw [Descriptor.primitive, canonical, taken])
    rw [Descriptor.primitive, canonical] at inserted
    refine ⟨true, _, inserted.bind ⟨rfl, rfl⟩, covers.append ?_ ?_, thawed⟩
    · exact has_extend.mpr (Or.inr ⟨_, List.mem_singleton_self _, rfl⟩)
    · exact List.forall_mem_singleton.mpr (Or.inl ⟨rfl, type.not_mem_name⟩)

theorem insertEach_covers {r : Registry} {names : List String} (covers : Covers r names)
    (thawed : r.frozen = false) (primitives : List (TypeExpr × Bool)) :
    ∃ count after, (insertEach (primitives.map fun p => (p.1.name, p.2))).Ends r (.ok count) after ∧
      Covers after (names ++ primitives.map (·.1.name)) ∧ after.frozen = false := by
  induction primitives generalizing r names with
  | nil => exact ⟨0, r, ⟨rfl, rfl⟩, (List.append_nil names).symm ▸ covers, thawed⟩
  | cons p primitives ih =>
    obtain ⟨added, between, first, covers', thawed'⟩ := insertPrimitive_covers covers thawed p.1 p.2
    obtain ⟨more, after, rest, covers'', thawed''⟩ := ih covers' thawed'
    rw [List.append_assoc, List.singleton_append] at covers''
    exact ⟨_, after, first.bind (rest.bind ⟨rfl, rfl⟩), covers'', thawed''⟩

end Written

namespace Scan
open Registry Written

/-- Primitives are all known to a scan of which nothing else has been asked. -/
theorem insertPrimitives_covers (primitives : List (TypeExpr × Bool)) (tags : Tags) (check : SyntaxCheck) :
    ∃ count seeded, (insertPrimitives (primitives.map fun p => (p.1.name, p.2))).Ends
        (fresh tags check) (.ok count) seeded ∧
      Covers seeded.registry (primitives.map (·.1.name)) ∧ seeded.registry.frozen = false ∧
      seeded.tags = tags := by
  have nothing : Covers {} [] := ⟨nofun, nofun⟩
  obtain ⟨count, after, each, covers, thawed⟩ := insertEach_covers nothing rfl primitives
  have all : (Registry.insertPrimitives _).Ends {} (.ok count) after := each.bind ⟨rfl, rfl⟩
  have ends := (onRegistry_ends_iff (fresh tags check)).mpr ⟨after, all, rfl⟩
  exact ⟨count, _, ends_get_bind_iff.mpr ends, covers, thawed, rfl⟩

/-- The blocks of structs are taken up to the first forward reference. -/
theorem takeFindings_of_first {ds : List Struct} {blocks : List StructBlock}
    (describes : List.Forall₂ Describes ds blocks) {names : List String}
    (distinct : Distinct names ds) {scan : Scan} (covers : Covers scan.registry names)
    (thawed : scan.registry.frozen = false)
    (accepted : ∀ d ∈ ds, ∀ m ∈ d.members, ∀ tag ∈ m.tag?, scan.tags.accept tag)
    {use : UnknownType} (first : (forwards names ds).head? = some use) (origin : String) :
    ∃ after, (takeFindings origin (blocks.map .block)).Ends scan (.error (.unknownType use)) after := by
  induction describes generalizing names scan with
  | nil => cases first
  | @cons d block ds blocks described _ ih =>
    obtain ⟨accept, accepted⟩ := List.forall_mem_cons.mp accepted
    have new := distinct.new d List.mem_cons_self
    rw [forwards, List.head?_append, List.head?_filter] at first
    rcases Option.or_eq_some_iff.mp first with here | ⟨none, later⟩
    · obtain ⟨name, body, line⟩ := block
      obtain ⟨rfl, stated⟩ := described
      have refused : (addFields scan.tags d.name.text body).Ends scan.registry
          (.error (.unknownType use)) scan.registry :=
        (readEach_of_first covers stated accept here).bind_error
      have ends : (takeBlock origin ⟨d.name.text, body, line⟩).Ends scan
          (.error (.unknownType use)) scan :=
        takeBlock_ends_of_refuses origin d.name.named (covers.has_eq_false new) refused
      exact ⟨scan, ends.bind_error⟩
    · have refers : ∀ m ∈ d.members, m.Refers names := fun m member =>
        Member.refers_of_references _ fun use used =>
          known_of_find?_eq_none none use (List.mem_flatMap.mpr ⟨m, member, used⟩)
      obtain ⟨reg, _, covers'⟩ := exists_registration described covers new refers
        (distinct.pointers d List.mem_cons_self) accept
      obtain ⟨after, rest⟩ := ih distinct.tail covers' thawed accepted later
      exact ⟨after, (takeBlock_ends_of_registration origin thawed reg).bind rest.bind_error⟩

/-- How a header is scanned that has nothing but structs in it. -/
theorem takeHeader_ends_of_headerText {ds : List Struct} {names : List String}
    (distinct : Distinct names ds) {scan : Scan} (covers : Covers scan.registry names)
    (thawed : scan.registry.frozen = false)
    (accepted : ∀ d ∈ ds, ∀ m ∈ d.members, ∀ tag ∈ m.tag?, scan.tags.accept tag) {text : String}
    (written : HeaderText true ds text.toList) (origin : String) :
    ∃ after, (takeHeader text origin).Ends scan
      ((forwards names ds).head?.elim (.ok (ds.map (·.name.text))) (.error ∘ .unknownType)) after := by
  obtain ⟨blocks, found, describes⟩ := findingsFrom_of_headerText written 1
  have thawed' : scan.starting.registry.frozen = false := thawed
  have covers' : Covers scan.starting.registry names := covers
  cases first : (forwards names ds).head? with
  | none =>
    have ordered := distinct.ordered (List.head?_eq_none_iff.mp first)
    obtain ⟨between, takes, _⟩ := takes_of_describes describes ordered covers' accepted
    rw [← found] at takes
    have ends := takes.ends origin thawed' (Header.named_of_mem_findings text)
    exact ⟨between.finishing, (takeHeader_ends_iff thawed).mpr (Or.inl ⟨_, _, ends, rfl, rfl⟩)⟩
  | some use =>
    obtain ⟨after, ends⟩ :=
      takeFindings_of_first describes distinct covers' thawed' accepted first origin
    rw [← found] at ends
    exact ⟨after, (takeHeader_ends_iff thawed).mpr (Or.inr ⟨_, ends, rfl⟩)⟩

/-- A header in which structs are written is refused exactly when one of them
uses a type that is neither a primitive nor a struct before it. What it is
refused for is the first such use. -/
theorem takeHeader_forwards (primitives : List (TypeExpr × Bool)) (ds : List Struct)
    (distinct : Distinct (primitives.map (·.1.name)) ds) (tags : Tags)
    (accepted : ∀ d ∈ ds, ∀ m ∈ d.members, ∀ tag ∈ m.tag?, tags.accept tag) (check : SyntaxCheck)
    (text : String) (written : HeaderText true ds text.toList) (origin : String) :
    ∃ count seeded,
      (insertPrimitives (primitives.map fun p => (p.1.name, p.2))).Ends (fresh tags check)
        (.ok count) seeded ∧
      ((∃ cause after, (takeHeader text origin).Ends seeded (.error cause) after) ↔
        ∃ before d later, ds = before ++ d :: later ∧ ∃ use ∈ d.references,
          use.type ∉ primitives.map (·.1.name) ∧ ∀ e ∈ before, use.type ≠ e.name.text) ∧
      ∀ cause after, (takeHeader text origin).Ends seeded (.error cause) after →
        ∃ use, (forwards (primitives.map (·.1.name)) ds).head? = some use ∧
          cause = .unknownType use := by
  obtain ⟨count, seeded, inserted, covers, thawed, same⟩ := insertPrimitives_covers primitives tags check
  obtain ⟨after, ends⟩ :=
    takeHeader_ends_of_headerText distinct covers thawed (same ▸ accepted) written origin
  have refused : ∀ cause between, (takeHeader text origin).Ends seeded (.error cause) between →
      ∃ use, (forwards (primitives.map (·.1.name)) ds).head? = some use ∧
        cause = .unknownType use := by
    intro cause between ends'
    have result := (ends.unique ends').1
    cases first : (forwards (primitives.map (·.1.name)) ds).head? with
    | none =>
      rw [first] at result
      cases result
    | some use =>
      rw [first] at result
      cases result
      exact ⟨use, rfl, rfl⟩
  refine ⟨count, seeded, inserted, ⟨?_, ?_⟩, refused⟩
  · rintro ⟨cause, between, ends'⟩
    obtain ⟨use, first, _⟩ := refused cause between ends'
    obtain ⟨before, d, later, split, used, unknown, others⟩ :=
      mem_forwards_iff.mp (List.mem_of_head? first)
    exact ⟨before, d, later, split, use, used, unknown, others⟩
  · rintro ⟨before, d, later, split, use, used, unknown, others⟩
    have member := mem_forwards_iff.mpr ⟨before, d, later, split, used, unknown, others⟩
    obtain ⟨first, rest, same⟩ := List.exists_cons_of_ne_nil (List.ne_nil_of_mem member)
    rw [same] at ends
    exact ⟨_, after, ends⟩

def forwardHeader : String :=
  "typedef struct { int n; a_t (C *f)(int x, b_t y); } a_t;\ntypedef struct { const char *s; } b_t;"

theorem headerText_forwardHeader : HeaderText true forwardStructs forwardHeader.toList := by
  have split : forwardHeader.toList = [] ++ ("typedef".toList ++
      (" struct { int n; a_t (C *f)(int x, b_t y); } a_t;".toList ++
        ("\n".toList ++ ("typedef".toList ++ (" struct { const char *s; } b_t;".toList ++ []))))) := by
    decide +kernel
  rw [split]
  exact .next ⟨[], [], rfl, List.forall_mem_nil _, Or.inl ⟨rfl, rfl⟩⟩
    (.anonymous (.cons .direct (.cons (.pointer .listed) .nil))) (by decide +kernel)
    (.next ⟨['\n'], [], rfl, List.forall_mem_nil _, Or.inr ⟨[], rfl, List.forall_mem_nil _⟩⟩
      (.anonymous (.cons .direct .nil)) (by decide +kernel) (.done (List.forall_mem_nil _)))

theorem takeHeader_forwards_forwardHeader :
    Distinct (someTypes.map (·.1.name)) forwardStructs ∧
      (∀ d ∈ forwardStructs, ∀ m ∈ d.members, ∀ tag ∈ m.tag?, Tags.accept (some ["C"]) tag) ∧
      HeaderText true forwardStructs forwardHeader.toList ∧
      ∃ count seeded after,
        (insertPrimitives (someTypes.map fun p => (p.1.name, p.2))).Ends (fresh (some ["C"]) .off)
          (.ok count) seeded ∧
        (takeHeader forwardHeader "h").Ends seeded
          (.error (.unknownType ⟨"a_t", "b_t", some "f", "argument"⟩)) after := by
  have distinct : Distinct (someTypes.map (·.1.name)) forwardStructs :=
    ⟨by decide +kernel, by decide +kernel, by decide +kernel⟩
  have accepted : ∀ d ∈ forwardStructs, ∀ m ∈ d.members, ∀ tag ∈ m.tag?,
      Tags.accept (some ["C"]) tag := by decide +kernel
  obtain ⟨count, seeded, inserted, refuses, first⟩ :=
    takeHeader_forwards someTypes forwardStructs distinct (some ["C"]) accepted .off forwardHeader
      headerText_forwardHeader "h"
  obtain ⟨cause, after, ends⟩ := refuses.mpr
    ⟨[], _, _, rfl, ⟨"a_t", "b_t", some "f", "argument"⟩, by decide +kernel, by decide +kernel,
      List.forall_mem_nil _⟩
  obtain ⟨use, foremost, rfl⟩ := first cause after ends
  have same : (forwards (someTypes.map (·.1.name)) forwardStructs).head? =
      some ⟨"a_t", "b_t", some "f", "argument"⟩ := by decide +kernel
  cases foremost.symm.trans same
  exact ⟨distinct, accepted, headerText_forwardHeader, count, seeded, after, inserted, ends⟩

end Scan

end HeaderTypes
