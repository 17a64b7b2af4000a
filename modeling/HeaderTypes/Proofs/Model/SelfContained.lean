import HeaderTypes.Proofs.Model.Shown

namespace HeaderTypes

/-- A type is a primitive of a model or one of some of its structs. -/
def Model.Lists (model : Model) (structs : List ModelStruct) (type : String) : Prop :=
  (∃ p ∈ model.primitives, p.name = type) ∨ ∃ s ∈ structs, s.name = type

instance (model : Model) (structs : List ModelStruct) (type : String) :
    Decidable (model.Lists structs type) :=
  inferInstanceAs (Decidable (_ ∨ _))

/-- The types that have to be looked up to make use of a field. -/
def ModelField.uses (field : ModelField) : List String :=
  match field.signature with
  | none => [field.type]
  | some (returns, arguments) => arguments ++ returns.toList

/-- A type is a function pointer of a struct, which has its signature. -/
def ModelStruct.Shows (s : ModelStruct) (type : String) : Prop :=
  ∃ field ∈ s.fields, field.type = type ∧ type = TypeName.ofSignature s.name field.name ∧
    field.signature.isSome

/-- Every type that is used is a primitive or a struct before the one that uses it. -/
def Model.SelfContained (model : Model) : Prop :=
  ∀ before s after, model.structs = before ++ s :: after →
    ∀ field ∈ s.fields, ∀ type ∈ field.uses, model.Lists before type

namespace Registry
open Relation

/-- A type is among some entries and, if it is a signature, so is its owner. -/
def Told (entries : List Descriptor) (type : String) : Prop :=
  ∃ e ∈ entries, e.name = type ∧ (e.isSignature → ∃ owner ∈ entries, owner.isStruct ∧
    ∃ field ∈ owner.fields, field.type = type ∧
      type = TypeName.ofSignature owner.name.text field.name)

theorem Told.append {entries : List Descriptor} {type : String} (told : Told entries type)
    (more : List Descriptor) : Told (entries ++ more) type := by
  obtain ⟨e, member, same, owned⟩ := told
  refine ⟨e, List.mem_append_left _ member, same, fun signature => ?_⟩
  obtain ⟨owner, registered, rest⟩ := owned signature
  exact ⟨owner, List.mem_append_left _ registered, rest⟩

theorem WellFormed.told {r : Registry} (wellFormed : r.WellFormed) {type : String}
    (known : r.has type) : Told r.entries type := by
  obtain ⟨e, member, same⟩ := has_iff.mp known
  refine ⟨e, member, same, fun signature => ?_⟩
  obtain ⟨_, owner, registered, isStruct, ⟨name, key, listed⟩, _⟩ := wellFormed.owned e member signature
  have called : type = TypeName.ofSignature owner.name.text name :=
    congrArg Text.Loose.text (same.symm.trans key)
  exact ⟨owner, registered, isStruct, _, listed, called.symm, called⟩

/-- What a signature refers to was there before the struct that it belongs to,
so that it refers to no signature of that struct. -/
def SignaturesTold (r : Registry) : Prop :=
  EachAfter (fun before d => d.isSignature → ∀ type ∈ d.uses, Told before type) r.entries

theorem signaturesTold_empty : SignaturesTold {} := eachAfter_of_forall nofun

theorem Grows.signaturesTold {r later : Registry} (grows : Grows r later)
    (wellFormed : r.WellFormed) (told : r.SignaturesTold) : later.SignaturesTold := by
  cases grows with
  | primitive compatible base free canonical =>
    exact eachAfter_append told (eachAfter_singleton nofun)
  | struct reg =>
    refine eachAfter_append told (eachAfter_append (eachAfter_of_forall ?_) (eachAfter_singleton nofun))
    intro d member before _ type used
    exact (wellFormed.told (reg.has_of_mem_uses member used)).append before
  | freeze => exact told

theorem SignaturesTold.of_grows {r later : Registry} (wellFormed : r.WellFormed)
    (told : r.SignaturesTold) (grows : ReflTransGen Grows r later) : later.SignaturesTold := by
  induction grows with
  | refl => exact told
  | tail early step ih => exact step.signaturesTold (wellFormed.of_grows early) ih

theorem mem_shown_primitives {r : Registry} {d : Descriptor} (member : d ∈ r.entries)
    (shape : d.shape = .primitive) : d ∈ r.shown.primitives :=
  List.mem_filter.mpr ⟨member, by simp [Descriptor.isBase, Descriptor.isStruct, Descriptor.isSignature, shape]⟩

/-- The structs before one in the model are those before it in the registry. -/
theorem exists_split_of_shown {r : Registry} {before after : List ModelStruct} {s : ModelStruct}
    (split : r.shown.structs = before ++ s :: after) :
    ∃ early d late, r.entries = early ++ d :: late ∧ s = r.shownStruct d ∧
      before = (early.filter (·.isStruct)).map r.shownStruct := by
  obtain ⟨first, rest, structs, rfl, others⟩ := List.map_eq_append_iff.mp split
  obtain ⟨d, last, rfl, rfl, _⟩ := List.map_eq_cons_iff.mp others
  obtain ⟨early, late, entries, rfl, tail⟩ := List.filter_eq_append_iff.mp structs
  obtain ⟨between, final, rfl, none, _⟩ := List.filter_eq_cons_iff.mp tail
  refine ⟨early ++ between, d, final, by rw [entries, List.append_assoc], rfl, ?_⟩
  rw [List.filter_append, List.filter_eq_nil_iff.mpr none, List.append_nil]

section
variable {r : Registry} (wellFormed : r.WellFormed) {before : List Descriptor}
  (earlier : ∀ e ∈ before, e ∈ r.entries)
include wellFormed earlier

theorem WellFormed.lists_of_mem {e : Descriptor} (member : e ∈ before) (other : e.isSignature = false)
    {type : String} (same : e.name = type) :
    r.shown.Lists ((before.filter (·.isStruct)).map r.shownStruct) type := by
  have registered := earlier e member
  rcases wellFormed.kinds e registered with primitive | isStruct | signature
  · exact Or.inl ⟨e, mem_shown_primitives registered primitive, same⟩
  · refine Or.inr ⟨r.shownStruct e, ?_, congrArg Text.Loose.text same⟩
    exact List.mem_map_of_mem (List.mem_filter.mpr ⟨member, isStruct⟩)
  · exact absurd signature (Bool.eq_false_iff.mp other)

/-- What is told is listed, unless it is a signature. Then its owner shows it. -/
theorem Told.lists_or_shows {type : String} (told : Told before type) :
    r.shown.Lists ((before.filter (·.isStruct)).map r.shownStruct) type ∨
      '.' ∈ type.toList ∧
        ∃ owner ∈ (before.filter (·.isStruct)).map r.shownStruct, owner.Shows type := by
  obtain ⟨e, member, same, owned⟩ := told
  cases signature : e.isSignature with
  | false => exact Or.inl (wellFormed.lists_of_mem earlier member signature same)
  | true =>
    obtain ⟨owner, ownerMember, isStruct, field, listed, typed, called⟩ := owned signature
    have dotted : '.' ∈ type.toList := by
      rw [called, TypeName.toList_ofSignature]
      exact List.mem_append_right _ List.mem_cons_self
    obtain ⟨_, canonical⟩ := wellFormed.has_field (earlier owner ownerMember) listed
    have found : r.find? field.type = some e := by
      rw [find?_of_canonical canonical, typed, ← same]
      exact entry?_of_mem wellFormed.distinct (earlier e member)
    obtain ⟨returns, arguments, shape⟩ := Descriptor.shape_of_isSignature signature
    have shown : (r.shownField field).signature = some (returns, arguments) := by
      rw [shownField, found]
      exact Descriptor.signature?_eq_some_iff.mpr shape
    refine Or.inr ⟨dotted, r.shownStruct owner, ?_, r.shownField field, ?_, typed, called, ?_⟩
    · exact List.mem_map_of_mem (List.mem_filter.mpr ⟨ownerMember, isStruct⟩)
    · exact List.mem_map_of_mem listed
    · rw [shown]
      rfl

end

/-- What a field uses is listed before its struct, but for the types of its
signature, which may be signatures of earlier structs. -/
theorem WellFormed.lists_or_shows {r : Registry} (wellFormed : r.WellFormed) (told : r.SignaturesTold)
    {before after : List Descriptor} {d : Descriptor} (split : r.entries = before ++ d :: after)
    {field : Field} (listed : field ∈ d.fields) {type : String}
    (used : type ∈ (r.shownField field).uses) :
    r.shown.Lists ((before.filter (·.isStruct)).map r.shownStruct) type ∨
      (r.shownField field).signature.isSome ∧ '.' ∈ type.toList ∧
        ∃ owner ∈ (before.filter (·.isStruct)).map r.shownStruct, owner.Shows type := by
  have earlier : ∀ e ∈ before, e ∈ r.entries := fun e member => split ▸ List.mem_append_left _ member
  obtain ⟨e, early, same, _, found⟩ := wellFormed.find?_field split listed
  have shown : (r.shownField field).signature = e.signature? := by rw [shownField, found]; rfl
  unfold ModelField.uses at used
  rw [shown] at used ⊢
  cases signature : e.signature? with
  | none =>
    rw [signature] at used
    cases List.mem_singleton.mp used
    exact Or.inl (wellFormed.lists_of_mem earlier early (Descriptor.signature?_eq_none_iff.mp signature) same)
  | some types =>
    obtain ⟨returns, arguments⟩ := types
    have shape := Descriptor.signature?_eq_some_iff.mp signature
    obtain ⟨first, rest, rfl⟩ := List.append_of_mem early
    rw [List.append_assoc, List.cons_append] at split
    have isSignature : e.isSignature := by simp [Descriptor.isSignature, shape]
    have used' : type ∈ e.uses := by
      rw [signature] at used
      rw [Descriptor.uses, shape]
      exact used
    have known := (told first e _ split isSignature type used').append (e :: rest)
    exact (known.lists_or_shows wellFormed earlier).imp_right fun shows => ⟨rfl, shows⟩

end Registry

namespace Scan
open HeaderTypes.Action Registry

/-- A type that the model uses for a field is a primitive or a struct before
the one with the field. Only the types of a signature may be something else,
and are then function pointers of earlier structs, which no name without a dot
refers to. -/
theorem finish_uses_of_reach {tags : Tags} {check : SyntaxCheck} {scan : Scan}
    (reach : Reach (fresh tags check) scan) :
    ∃ model, finish.Ends scan (.ok model) scan.closed ∧
      ∀ before s after, model.structs = before ++ s :: after →
        ∀ field ∈ s.fields, ∀ type ∈ field.uses,
          model.Lists before type ∨
            field.signature.isSome ∧ '.' ∈ type.toList ∧ ∃ owner ∈ before, owner.Shows type := by
  have grows := reach.grows_of_fresh
  have wellFormed := wellFormed_empty.of_grows grows
  have told := signaturesTold_empty.of_grows wellFormed_empty grows
  refine ⟨_, finish_ends_of_reach reach, ?_⟩
  intro before s after split field listed type used
  obtain ⟨early, d, late, entries, rfl, rfl⟩ := exists_split_of_shown split
  obtain ⟨own, declared, rfl⟩ := List.mem_map.mp listed
  exact wellFormed.lists_or_shows told entries declared used

/-- A function pointer of the second struct takes one of the first struct as an argument. -/
def borrowingHeader : String :=
  "typedef struct { int (C *f)(int a); } a_t;\ntypedef struct { void (C *g)(a_t.f x); } b_t;\n"

def borrowingRun : Scan :=
  (Operation.header borrowingHeader "h.h").after
    ((Operation.primitive "int" true).after (fresh none .off))

def borrowingModel : Model where
  structs :=
    [⟨"a_t", false, [⟨"a_t.f", "f", some (some "int", ["int"])⟩]⟩,
      ⟨"b_t", false, [⟨"b_t.g", "g", some (none, ["a_t.f"])⟩]⟩]
  primitives := [.primitive "int" true]

theorem reach_borrowingRun : Reach (fresh none .off) borrowingRun :=
  (Reach.start.next (.primitive "int" true)).next (.header borrowingHeader "h.h")

theorem finish_borrowingRun : finish.Ends borrowingRun (.ok borrowingModel) borrowingRun.closed := by
  have shown : borrowingRun.registry.shown = borrowingModel := by decide +kernel
  exact shown ▸ finish_ends_of_reach reach_borrowingRun

theorem finish_uses_of_reach_borrowingRun :
    Reach (fresh none .off) borrowingRun ∧
      ∃ model, finish.Ends borrowingRun (.ok model) borrowingRun.closed ∧
        ∀ before s after, model.structs = before ++ s :: after →
          ∀ field ∈ s.fields, ∀ type ∈ field.uses,
            model.Lists before type ∨
              field.signature.isSome ∧ '.' ∈ type.toList ∧ ∃ owner ∈ before, owner.Shows type :=
  ⟨reach_borrowingRun, finish_uses_of_reach reach_borrowingRun⟩

/-- Not every model can be used without looking into the fields of its structs. -/
theorem not_selfContained_borrowingRun :
    Reach (fresh none .off) borrowingRun ∧
      ∃ model, finish.Ends borrowingRun (.ok model) borrowingRun.closed ∧ ¬ model.SelfContained := by
  refine ⟨reach_borrowingRun, borrowingModel, finish_borrowingRun, fun selfContained => ?_⟩
  have listed := selfContained [_] _ [] rfl ⟨"b_t.g", "g", some (none, ["a_t.f"])⟩
    List.mem_cons_self "a_t.f" List.mem_cons_self
  exact absurd listed (by decide +kernel)

end Scan

end HeaderTypes
