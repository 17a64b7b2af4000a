import HeaderTypes.Proofs.Scan.Reach
import HeaderTypes.Proofs.Written.Registered

namespace HeaderTypes
open Text HeaderTypes.Action

namespace Written

/-- The type expression of one word. -/
def wordType (name : Identifier) : TypeExpr where
  tokens := [.word name.text.toList]
  some := List.cons_ne_nil _ _
  words := List.forall_mem_singleton.mpr
    ⟨ne_nil_of_isName name.named, isWord_of_isName name.named⟩
  apart := List.isChain_singleton _

def textType : TypeExpr where
  tokens := [.word "const".toList, .word "char".toList, .stars 0]
  some := List.cons_ne_nil _ _
  words := by decide +kernel
  apart := by decide +kernel

def someTypes : List (TypeExpr × Bool) :=
  [(wordType ⟨"int", by decide⟩, true), (textType, false)]

/-- A struct of plain data and one with function pointers. -/
def someStructs : List Struct :=
  [⟨⟨"a_t", by decide⟩, [.direct (wordType ⟨"int", by decide⟩) ⟨"a", by decide⟩]⟩,
    ⟨⟨"b_t", by decide⟩, [.direct textType ⟨"s", by decide⟩,
      .pointer (wordType ⟨"int", by decide⟩) ⟨"C", by decide⟩ ⟨"f", by decide⟩
        [(wordType ⟨"a_t", by decide⟩, ⟨"x", by decide⟩), (textType, ⟨"y", by decide⟩)],
      .pointer (wordType ⟨"void", by decide⟩) ⟨"C", by decide⟩ ⟨"g", by decide⟩ []]⟩]

def someHeader : String :=
  "typedef struct{int a;}a_t;\n\ttypedef" ++
    "  struct b { const char*s; int(C*f)(a_t x,const char *y);  void (C *g) ( void ) ; } b_t ;\n"

theorem ordered_someStructs : Ordered (someTypes.map (·.1.name)) someStructs :=
  .cons (by decide +kernel) (by decide +kernel) (by decide +kernel)
    (.cons (by decide +kernel) (by decide +kernel) (by decide +kernel) .nil)

theorem headerText_someHeader : HeaderText true someStructs someHeader.toList := by
  have split : someHeader.toList = [] ++ ("typedef".toList ++ (" struct{int a;}a_t;".toList ++
      ("\n\t".toList ++ ("typedef".toList ++
        (("  struct b { const char*s; int(C*f)(a_t x,const char *y);  void (C *g) ( void ) ; } b_t ;"
          ).toList ++ "\n".toList))))) := by decide +kernel
  rw [split]
  exact .next ⟨[], [], rfl, List.forall_mem_nil _, Or.inl ⟨rfl, rfl⟩⟩ (.anonymous (.cons .direct .nil))
    (by decide +kernel) (.next ⟨['\n'], ['\t'], rfl, List.forall_mem_singleton.mpr rfl,
      Or.inr ⟨[], rfl, List.forall_mem_nil _⟩⟩
      (@Struct.Lexemes.tagged _ ⟨"b", by decide⟩ _ (by decide +kernel)
        (.cons .direct (.cons (.pointer .listed) (.cons (.pointer .void) .nil))))
      (by decide +kernel) (.done (List.forall_mem_singleton.mpr rfl)))

end Written

namespace Scan
open Registry Written

/-- A struct with a function pointer that takes a later struct and returns the
struct itself. -/
def forwardStructs : List Struct :=
  [⟨⟨"a_t", by decide⟩, [.direct (wordType ⟨"int", by decide⟩) ⟨"n", by decide⟩,
      .pointer (wordType ⟨"a_t", by decide⟩) ⟨"C", by decide⟩ ⟨"f", by decide⟩
        [(wordType ⟨"int", by decide⟩, ⟨"x", by decide⟩),
          (wordType ⟨"b_t", by decide⟩, ⟨"y", by decide⟩)]]⟩,
    ⟨⟨"b_t", by decide⟩, [.direct textType ⟨"s", by decide⟩]⟩]

/-- The block of a struct that refers to known names is registered as the struct. -/
theorem exists_registration {scan : Scan} {names : List String} {d : Struct} {block : StructBlock}
    (described : Describes d block) (covers : Covers scan.registry names)
    (new : d.name.text ∉ names) (refers : ∀ m ∈ d.members, m.Refers names)
    (distinct : (d.members.filterMap (·.pointerName?)).Nodup)
    (accepted : ∀ m ∈ d.members, ∀ tag ∈ m.tag?, scan.tags.accept tag) :
    ∃ reg : Registration scan.tags scan.registry block,
      reg.registry = scan.registry.extend (d.entries scan.registry.entries) ∧
      Covers (scan.registering reg).registry (names ++ [d.name.text]) := by
  obtain ⟨name, body, line⟩ := block
  obtain ⟨rfl, stated⟩ := described
  obtain ⟨reg, parts⟩ := registration_of_describes stated covers new refers distinct accepted
  have same : reg.registry = scan.registry.extend (d.entries scan.registry.entries) :=
    registry_of_parts parts covers new refers
  refine ⟨reg, same, ?_⟩
  rw [show (scan.registering reg).registry = reg.registry from rfl, same]
  exact covers.extend d

/-- A header with nothing but definitions that refer to earlier ones is taken as a whole. -/
theorem takes_of_describes {ds : List Struct} {blocks : List StructBlock}
    (describes : List.Forall₂ Describes ds blocks) {names : List String} (ordered : Ordered names ds)
    {scan : Scan} (covers : Covers scan.registry names)
    (accepted : ∀ d ∈ ds, ∀ m ∈ d.members, ∀ tag ∈ m.tag?, scan.tags.accept tag) :
    ∃ after, Takes scan (blocks.map .block) (ds.map (·.name.text)) after ∧
      after.registry.entries = registered scan.registry.entries ds := by
  -- each struct is read against the names of all before it, so `names` grows with the scan
  induction describes generalizing names scan with
  | nil => exact ⟨scan, .done, rfl⟩
  | @cons d block ds blocks described _ ih =>
    obtain ⟨name, body, line⟩ := block
    obtain ⟨rfl, stated⟩ := described
    cases ordered with
    | cons new refers distinct ordered =>
      obtain ⟨accept, accepted⟩ := List.forall_mem_cons.mp accepted
      obtain ⟨reg, same, covers'⟩ :=
        exists_registration ⟨rfl, stated⟩ covers new refers distinct accept
      obtain ⟨after, takes, entries⟩ := ih ordered covers' accepted
      refine ⟨after, .block (.register reg) takes, ?_⟩
      rw [entries, show (scan.registering reg).registry = reg.registry from rfl, same]
      rfl

theorem covers_primitives (primitives : List (TypeExpr × Bool)) {r : Registry}
    (entries : r.entries = primitives.map fun p => .primitive p.1.name p.2) :
    Covers r (primitives.map (·.1.name)) where
  known name listed := by
    obtain ⟨p, member, rfl⟩ := List.mem_map.mp listed
    exact has_iff.mpr ⟨_, entries ▸ List.mem_map_of_mem member, rfl⟩
  listed e member := by
    rw [entries] at member
    obtain ⟨p, listed, rfl⟩ := List.mem_map.mp member
    exact Or.inl ⟨_, List.mem_map_of_mem listed, rfl, p.1.not_mem_name⟩

/-- Primitives of different names are all accepted by a scan of which nothing has been asked. -/
theorem insertPrimitives_fresh (primitives : List (TypeExpr × Bool))
    (distinct : (primitives.map (·.1.name)).Nodup) (tags : Tags) (check : SyntaxCheck) :
    ∃ seeded, (insertPrimitives (primitives.map fun p => (p.1.name, p.2))).Ends (fresh tags check)
        (.ok primitives.length) seeded ∧
      seeded.registry.entries = (primitives.map fun p => .primitive p.1.name p.2) ∧
      seeded.registry.frozen = false ∧ seeded.tags = tags := by
  have canonical : ∀ p ∈ primitives.map fun p => ((p.1.name : Loose), p.2),
      TypeName.key p.1 = p.1 := by
    intro p member
    obtain ⟨q, _, rfl⟩ := List.mem_map.mp member
    simp only [TypeName.key, Loose.mapText, q.1.canonical_name]
  have different : ((primitives.map fun p => ((p.1.name : Loose), p.2)).map (·.1)).Nodup := by
    rw [List.map_map]
    have names := List.Nodup.map (f := fun name : String => (name : Loose))
      (fun name other same => congrArg Loose.text same) distinct
    rwa [List.map_map] at names
  have each := insertEach_ends (r := {}) rfl canonical (fun _ _ => rfl) different
  have all : (Registry.insertPrimitives _).Ends {} (.ok _) _ :=
    each.bind (ends_tell_bind_iff.mpr (ends_pure_iff.mpr ⟨rfl, rfl⟩))
  rw [List.length_map] at all
  refine ⟨_, ends_get_bind_iff.mpr ((onRegistry_ends_iff (fresh tags check)).mpr ⟨_, all, rfl⟩),
    ?_, rfl, rfl⟩
  change [] ++ (primitives.map fun p => ((p.1.name : Loose), p.2)).map _ = _
  rw [List.nil_append, List.map_map]
  rfl

/-- A header in which structs are written in any layout is scanned to what was
written: after some primitives, the registry holds each struct behind its
signatures, in the order of the header. -/
theorem takeHeader_of_headerText (primitives : List (TypeExpr × Bool))
    (distinct : (primitives.map (·.1.name)).Nodup) (ds : List Struct)
    (ordered : Ordered (primitives.map (·.1.name)) ds) (tags : Tags)
    (accepted : ∀ d ∈ ds, ∀ m ∈ d.members, ∀ tag ∈ m.tag?, tags.accept tag) (check : SyntaxCheck)
    (text : String) (written : HeaderText true ds text.toList) (origin : String) :
    ∃ seeded after,
      (insertPrimitives (primitives.map fun p => (p.1.name, p.2))).Ends (fresh tags check)
        (.ok primitives.length) seeded ∧
      (takeHeader text origin).Ends seeded (.ok (ds.map (·.name.text))) after ∧
      after.registry.entries =
        registered (primitives.map fun p => .primitive p.1.name p.2) ds := by
  obtain ⟨seeded, inserted, entries, thawed, same⟩ := insertPrimitives_fresh primitives distinct tags check
  obtain ⟨blocks, found, describes⟩ := findingsFrom_of_headerText written 1
  have covers : Covers seeded.starting.registry _ := covers_primitives primitives entries
  obtain ⟨between, takes, registry⟩ := takes_of_describes describes ordered covers
    (same ▸ accepted)
  refine ⟨seeded, between.finishing, inserted, ?_, ?_⟩
  · rw [← found] at takes
    have ends := takes.ends origin thawed (Header.named_of_mem_findings text)
    exact (takeHeader_ends_iff thawed).mpr (Or.inl ⟨_, _, ends, rfl, rfl⟩)
  · rw [← entries]
    exact registry

theorem takeHeader_of_headerText_someHeader :
    (someTypes.map (·.1.name)).Nodup ∧ Ordered (someTypes.map (·.1.name)) someStructs ∧
      (∀ d ∈ someStructs, ∀ m ∈ d.members, ∀ tag ∈ m.tag?, Tags.accept (some ["C"]) tag) ∧
      HeaderText true someStructs someHeader.toList ∧
      ∃ seeded after,
        (insertPrimitives (someTypes.map fun p => (p.1.name, p.2))).Ends (fresh (some ["C"]) .off)
          (.ok 2) seeded ∧
        (takeHeader someHeader "h").Ends seeded (.ok ["a_t", "b_t"]) after ∧
        after.registry.entries =
          [.primitive "int" true, .primitive "const char *" false,
            .struct "a_t" [⟨"int", "a"⟩] true,
            .signature "b_t.f" (some "int") ["a_t", "const char *"],
            .signature "b_t.g" none [],
            .struct "b_t" [⟨"const char *", "s"⟩, ⟨"b_t.f", "f"⟩, ⟨"b_t.g", "g"⟩] false] := by
  have distinct : (someTypes.map (·.1.name)).Nodup := by decide +kernel
  have accepted : ∀ d ∈ someStructs, ∀ m ∈ d.members, ∀ tag ∈ m.tag?,
      Tags.accept (some ["C"]) tag := by decide +kernel
  obtain ⟨seeded, after, inserted, ends, entries⟩ :=
    takeHeader_of_headerText someTypes distinct someStructs ordered_someStructs (some ["C"]) accepted
      .off someHeader headerText_someHeader "h"
  refine ⟨distinct, ordered_someStructs, accepted, headerText_someHeader, seeded, after, inserted,
    ends, ?_⟩
  rw [entries]
  decide +kernel

end Scan

end HeaderTypes
