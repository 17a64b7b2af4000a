import HeaderTypes.Proofs.Registry.Frozen
import HeaderTypes.Proofs.Registry.Growth
import Mathlib.Data.List.Nodup

namespace HeaderTypes

/-- The signature of a function pointer in a struct, with its types in their
canonical spelling. No other declaration has one. -/
def Declaration.signature? (struct : String) : Declaration → Option Descriptor
  | direct _ _ => none
  | pointer returns _ name arguments =>
    some (.signature (TypeName.ofSignature struct name)
      (if returns = TypeName.void then none else some (TypeName.canonical returns))
      (arguments.map TypeName.canonical))

namespace Registry
open HeaderTypes.Action

/-- What can be asked of a registry. -/
inductive Call
  | insert (d : Descriptor)
  | add (d : Descriptor)
  | insertPrimitive (name : Text.Loose) (compatible : Bool)
  | insertPrimitives (all : List (Text.Loose × Bool))
  | addField (tags : Tags) (struct statement : String)
  | addFields (tags : Tags) (struct body : String)
  | allCompatible (fields : List Field)
  | addStruct (name : String) (fields : List Field)
  | freeze
  | close
  | modelOf (all : List Descriptor)
  | contains (name : Text.Loose)
  | size
  | names
  | structs
  | find (name : String)
  | entry (name : String)
  | resolve (type struct : String) (field : Option String) (role : String)

namespace Call

/-- The kind of answer that a call gives. -/
def Answer : Call → Type
  | insert _ | insertPrimitive _ _ | allCompatible _ | contains _ => Bool
  | insertPrimitives _ | size => Nat
  | add _ | addStruct _ _ | entry _ => Descriptor
  | addField _ _ _ => Field
  | addFields _ _ _ => List Field
  | freeze => Unit
  | close | structs => List Descriptor
  | modelOf _ => Model
  | names => List String
  | find _ => Option Descriptor
  | resolve _ _ _ _ => String

/-- The operation that is called for. A lookup leaves the registry as it is. -/
def act : (call : Call) → Action Registry call.Answer
  | insert d => Registry.insert d
  | add d => Registry.add d
  | insertPrimitive name compatible => Registry.insertPrimitive name compatible
  | insertPrimitives all => Registry.insertPrimitives all
  | addField tags struct statement => Registry.addField tags struct statement
  | addFields tags struct body => Registry.addFields tags struct body
  | allCompatible fields => do ofExcept ((← get).allCompatible fields)
  | addStruct name fields => Registry.addStruct name fields
  | freeze => Registry.freeze
  | close => Registry.close
  | modelOf all => do
    let r ← get
    let shown ← ofExcept (r.modelStructs all)
    return ⟨shown, r.entries.filter (·.isBase)⟩
  | contains name => do return (← get).contains name
  | size => do return (← get).size
  | names => do return (← get).names
  | structs => do return (← get).structs
  | find name => do return (← get).find? name
  | entry name => do ofExcept ((← get).entry name)
  | resolve type struct field role => do ofExcept ((← get).resolve type struct field role)

end Call

/-- Registries that calls lead to from an empty one, in any order and number. -/
inductive Filled : Registry → Prop
  | empty : Filled {}
  | next {r} (call : Call) : Filled r → Filled (call.act.run r).state

/-- A registry has room for more entries: their names are canonical, free and different. -/
structure Fits (r : Registry) (more : List Descriptor) : Prop where
  canonical : ∀ d ∈ more, TypeName.key d.name = d.name
  free : ∀ d ∈ more, r.has d.name = false
  distinct : (more.map (·.name)).Nodup

theorem fits_nil (r : Registry) : r.Fits [] := ⟨nofun, nofun, .nil⟩

theorem fits_map_keyed {r : Registry} {ds : List Descriptor}
    (free : ∀ d ∈ ds, r.contains d.name = false)
    (distinct : (ds.map fun d => TypeName.key d.name).Nodup) : r.Fits (ds.map keyed) where
  canonical := List.forall_mem_map.mpr fun d _ => TypeName.key_key d.name
  free := List.forall_mem_map.mpr free
  distinct := by rwa [List.map_map]

theorem fits_keyed {r : Registry} {d : Descriptor} (free : r.contains d.name = false) :
    r.Fits [keyed d] :=
  fits_map_keyed (List.forall_mem_singleton.mpr free) (List.pairwise_singleton _ _)

theorem Fits.append {r : Registry} {first later : List Descriptor} (fits : r.Fits first)
    (fits' : (r.extend first).Fits later) : r.Fits (first ++ later) where
  canonical := List.forall_mem_append.mpr ⟨fits.canonical, fits'.canonical⟩
  free := by
    refine List.forall_mem_append.mpr ⟨fits.free, fun d member => Bool.eq_false_iff.mpr fun taken => ?_⟩
    exact Bool.false_ne_true ((fits'.free d member).symm.trans (has_extend.mpr (Or.inl taken)))
  distinct := by
    rw [List.map_append]
    refine List.nodup_append.mpr ⟨fits.distinct, fits'.distinct, ?_⟩
    intro name early name' late same
    obtain ⟨d, member, rfl⟩ := List.mem_map.mp early
    obtain ⟨e, member', rfl⟩ := List.mem_map.mp late
    have taken : (r.extend first).has e.name := has_extend.mpr (Or.inr ⟨d, member, same⟩)
    exact Bool.false_ne_true ((fits'.free e member').symm.trans taken)

/-- All that a call can do to a registry. -/
inductive Advances (r : Registry) : Registry → Prop
  | same : Advances r r
  | append {more} : r.frozen = false → r.Fits more → Advances r (r.extend more)
  | freeze : Advances r { r with frozen := true }

/-- A call that is refused changes nothing. -/
inductive Settles {α : Type} (r : Registry) : Except Failure α → Registry → Prop
  | refused (cause : Failure) : Settles r (.error cause) r
  | answered {after} (answer : α) : Advances r after → Settles r (.ok answer) after

section
variable {α : Type} {r after : Registry}

theorem settles_of_keeps {action : Action Registry α} {result : Except Failure α}
    (keeps : action.Keeps r) (ends : action.Ends r result after) : Settles r result after := by
  obtain rfl := ends.eq_of_keeps keeps
  cases result with
  | ok answer => exact .answered answer .same
  | error cause => exact .refused cause

theorem insert_settles {d : Descriptor} {result : Except Failure Bool}
    (ends : (insert d).Ends r result after) : Settles r result after := by
  cases frozen : r.frozen with
  | true => exact settles_of_keeps (insert_keeps frozen d) ends
  | false =>
    cases taken : r.contains d.name with
    | true =>
      obtain ⟨rfl, rfl⟩ := ends.unique (insert_ends_of_has frozen taken)
      exact .answered false .same
    | false =>
      obtain ⟨rfl, rfl⟩ := ends.unique (insert_ends_of_free frozen taken)
      exact .answered true (.append frozen (fits_keyed taken))

theorem add_settles {d : Descriptor} {result : Except Failure Descriptor}
    (ends : (add d).Ends r result after) : Settles r result after := by
  cases frozen : r.frozen with
  | true => exact settles_of_keeps (add_keeps frozen d) ends
  | false =>
    cases taken : r.contains d.name with
    | true =>
      have refused : (add d).Ends r (.error (.duplicateType d.name.text)) r :=
        (insert_ends_of_has frozen taken).bind (ends_refuse_iff.mpr ⟨rfl, rfl⟩)
      obtain ⟨rfl, rfl⟩ := ends.unique refused
      exact .refused _
    | false =>
      obtain ⟨rfl, rfl⟩ := ends.unique (add_ends frozen taken)
      exact .answered d (.append frozen (fits_keyed taken))

theorem eq_nil_of_addEach (frozen : r.frozen = true) {ds : List Descriptor}
    (ends : (addEach ds).Ends r (.ok ()) after) : ds = [] := by
  cases ds with
  | nil => rfl
  | cons d ds =>
    have refused : (addEach (d :: ds)).Ends r _ r :=
      (insert_ends_of_frozen frozen d).bind_error.bind_error
    cases (ends.unique refused).1

theorem exists_fits_seed (r : Registry) (primitive : Text.Loose × Bool) :
    ∃ more, r.Fits more ∧ r.seed primitive = r.extend more := by
  unfold seed
  split
  · exact ⟨[], fits_nil r, (extend_nil r).symm⟩
  · rename_i free
    exact ⟨_, fits_keyed (d := .primitive primitive.1 primitive.2) (Bool.eq_false_iff.mpr free), rfl⟩

/-- Of several primitives those are appended whose names were free. -/
theorem exists_fits_foldl_seed (r : Registry) (primitives : List (Text.Loose × Bool)) :
    ∃ more, r.Fits more ∧ primitives.foldl seed r = r.extend more := by
  induction primitives generalizing r with
  | nil => exact ⟨[], fits_nil r, (extend_nil r).symm⟩
  | cons primitive primitives ih =>
    obtain ⟨first, fits, same⟩ := exists_fits_seed r primitive
    obtain ⟨later, fits', same'⟩ := ih (r.extend first)
    refine ⟨first ++ later, fits.append fits', ?_⟩
    rw [List.foldl_cons, same, same', extend_extend]

theorem insertPrimitive_settles {name : Text.Loose} {compatible : Bool} {result : Except Failure Bool}
    (ends : (insertPrimitive name compatible).Ends r result after) : Settles r result after := by
  cases frozen : r.frozen with
  | true => exact settles_of_keeps (insertPrimitive_keeps frozen name compatible) ends
  | false =>
    have seeded := insertPrimitive_ends frozen (name, compatible)
    obtain ⟨rfl, rfl⟩ := ends.unique seeded
    obtain ⟨more, fits, same⟩ := exists_fits_seed r (name, compatible)
    exact .answered _ (same ▸ .append frozen fits)

theorem insertPrimitives_settles {primitives : List (Text.Loose × Bool)} {result : Except Failure Nat}
    (ends : (insertPrimitives primitives).Ends r result after) : Settles r result after := by
  cases frozen : r.frozen with
  | true => exact settles_of_keeps (insertPrimitives_keeps frozen primitives) ends
  | false =>
    obtain ⟨count, seeded, -⟩ := insertEach_ends_foldl primitives frozen
    have told : (insertPrimitives primitives).Ends r (.ok count) (primitives.foldl seed r) :=
      seeded.bind (ends_tell_bind_iff.mpr (ends_pure_iff.mpr ⟨rfl, rfl⟩))
    obtain ⟨rfl, rfl⟩ := ends.unique told
    obtain ⟨more, fits, same⟩ := exists_fits_foldl_seed r primitives
    exact .answered count (same ▸ .append frozen fits)

theorem addField_settles {tags : Tags} {struct statement : String} {result : Except Failure Field}
    (ends : (addField tags struct statement).Ends r result after) : Settles r result after := by
  rcases ends_bind_iff.mp ends with ⟨⟨field, signature⟩, between, read, ends⟩ | ⟨cause, refused, rfl⟩
  · obtain rfl := readField_ends_same read
    cases signature with
    | none =>
      obtain ⟨rfl, rfl⟩ := ends
      exact .answered field .same
    | some d =>
      rcases ends_bind_iff.mp ends with ⟨added, between, added', rfl, rfl⟩ | ⟨cause, refused, rfl⟩
      · cases add_settles added' with
        | answered _ advances => exact .answered field advances
      · cases add_settles refused with
        | refused => exact .refused cause
  · obtain rfl := readField_ends_same refused
    exact .refused cause

theorem addStruct_settles {name : String} {fields : List Field} {result : Except Failure Descriptor}
    (ends : (addStruct name fields).Ends r result after) : Settles r result after := by
  rw [addStruct, ends_get_bind_iff, ends_ofExcept_bind_iff] at ends
  rcases ends with ⟨compatible, -, ends⟩ | ⟨cause, -, rfl, rfl⟩
  · rcases ends_bind_iff.mp ends with ⟨added, between, added', told⟩ | ⟨cause, refused, rfl⟩
    · obtain ⟨rfl, rfl⟩ := ends_tell_bind_iff.mp told
      cases add_settles added' with
      | answered _ advances => exact .answered added advances
    · cases add_settles refused with
      | refused => exact .refused cause
  · exact .refused cause

end

/-- The signatures of the function pointers in a struct body, in the order of
their statements, as they are registered. -/
def signaturesOf (struct body : String) : List Descriptor :=
  ((Declaration.statements body).filterMap fun statement =>
    (Declaration.ofStatement? statement).bind (·.signature? struct)).map keyed

section
variable {tags : Tags} {r : Registry} {struct : String} {statements : List String}
  {parts : List (Field × Option Descriptor)}

theorem filterMap_of_reads (reads : List.Forall₂ (Reads tags r struct) statements parts) :
    parts.filterMap (·.2) = statements.filterMap fun statement =>
      (Declaration.ofStatement? statement).bind (·.signature? struct) := by
  induction reads with
  | nil => rfl
  | cons first _ ih =>
    rw [List.filterMap_cons, List.filterMap_cons, ih]
    cases first with
    | direct read known => simp only [read, Option.bind_some, Declaration.signature?]
    | pointer read accepted some known returnKnown =>
      simp only [read, Option.bind_some, Declaration.signature?]

theorem name_of_reads (reads : List.Forall₂ (Reads tags r struct) statements parts)
    {d : Descriptor} (member : d ∈ parts.filterMap (·.2)) :
    ∃ name : String, Text.isName name.toList ∧ d.name = TypeName.ofSignature struct name := by
  obtain ⟨part, listed, same⟩ := List.mem_filterMap.mp member
  cases part_of_forall₂_reads reads part listed with
  | direct known canonical => cases same
  | pointer named known returnKnown =>
    cases same
    exact ⟨_, named, rfl⟩

/-- Signatures of one struct have different keys as soon as they have different names. -/
theorem key_nodup_of_reads (reads : List.Forall₂ (Reads tags r struct) statements parts)
    (distinct : ((parts.filterMap (·.2)).map (·.name)).Nodup) :
    ((parts.filterMap (·.2)).map fun d => TypeName.key d.name).Nodup := by
  have keys := List.Nodup.map_on (f := TypeName.key) (fun key member key' member' same => ?_) distinct
  · rwa [List.map_map] at keys
  · obtain ⟨d, listed, rfl⟩ := List.mem_map.mp member
    obtain ⟨e, listed', rfl⟩ := List.mem_map.mp member'
    obtain ⟨name, named, spelled⟩ := name_of_reads reads listed
    obtain ⟨name', named', spelled'⟩ := name_of_reads reads listed'
    rw [spelled, spelled'] at same ⊢
    have texts := congrArg Text.Loose.text same
    rw [TypeName.canonical_ofSignature_inj named named' texts]

end

/-- The fields of a struct are all refused, or one signature is appended for each
function pointer. None of them can be refused once the others are registered. -/
theorem addFields_settles {tags : Tags} {r after : Registry} {struct body : String}
    {result : Except Failure (List Field)} (ends : (addFields tags struct body).Ends r result after) :
    Settles r result after ∧
      ∀ fields, result = .ok fields → after = r.extend (signaturesOf struct body) := by
  rcases ends_bind_iff.mp ends with ⟨parts, between, read, ends⟩ | ⟨cause, refused, rfl⟩
  · obtain ⟨reads, rfl⟩ := readEach_ends_iff.mp read
    rw [ends_get_bind_iff] at ends
    cases found : r.firstTaken? [] (parts.filterMap (·.2)) with
    | some name =>
      rw [found] at ends
      obtain ⟨rfl, rfl⟩ := ends
      exact ⟨.refused _, nofun⟩
    | none =>
      rw [found] at ends
      obtain ⟨fresh, distinct⟩ := firstTaken?_eq_none_iff.mp found
      have same : (parts.filterMap (·.2)).map keyed = signaturesOf struct body := by
        rw [filterMap_of_reads reads, signaturesOf]
      rw [← same]
      have free : ∀ d ∈ parts.filterMap (·.2), r.contains d.name = false := fun d member =>
        (fresh d member).2
      have keys := key_nodup_of_reads reads distinct
      cases frozen : r.frozen with
      | true =>
        rcases ends_bind_iff.mp ends with ⟨_, between, added, rfl, rfl⟩ | ⟨cause, refused, rfl⟩
        · obtain rfl := added.eq_of_keeps (addEach_keeps frozen _)
          rw [eq_nil_of_addEach frozen added]
          exact ⟨.answered _ .same, fun _ _ => (extend_nil _).symm⟩
        · obtain rfl := refused.eq_of_keeps (addEach_keeps frozen _)
          exact ⟨.refused cause, nofun⟩
      | false =>
        rw [ends_bind_of_ends (addEach_ends_keyed frozen free keys)] at ends
        obtain ⟨rfl, rfl⟩ := ends
        exact ⟨.answered _ (.append frozen (fits_map_keyed free keys)), fun _ _ => rfl⟩
  · obtain ⟨unread, rfl⟩ := readEach_ends_error refused
    exact ⟨.refused cause, nofun⟩

theorem Call.settles {r after : Registry} (call : Call) {result : Except Failure call.Answer}
    (ends : call.act.Ends r result after) : Settles r result after := by
  cases call with
  | insert d => exact insert_settles ends
  | add d => exact add_settles ends
  | insertPrimitive name compatible => exact insertPrimitive_settles ends
  | insertPrimitives all => exact insertPrimitives_settles ends
  | addField tags struct statement => exact addField_settles ends
  | addFields tags struct body => exact (addFields_settles ends).1
  | addStruct name fields => exact addStruct_settles ends
  | freeze =>
    obtain ⟨rfl, rfl⟩ := ends
    exact .answered () .freeze
  | close =>
    obtain ⟨rfl, rfl⟩ := close_ends_iff.mp ends
    exact .answered _ .freeze
  | allCompatible fields => exact settles_of_keeps (keeps_get_bind (keeps_ofExcept _ r)) ends
  | entry name => exact settles_of_keeps (keeps_get_bind (keeps_ofExcept _ r)) ends
  | resolve type struct field role => exact settles_of_keeps (keeps_get_bind (keeps_ofExcept _ r)) ends
  | modelOf all =>
    have keeps : (modelOf all).act.Keeps r :=
      keeps_get_bind ((keeps_ofExcept _ r).bind fun _ => rfl)
    exact settles_of_keeps keeps ends
  | contains | size | names | structs | find =>
    obtain ⟨rfl, rfl⟩ := ends
    exact .answered _ .same

section
variable {r after : Registry} (advances : Advances r after)
include advances

theorem Advances.appends : r.entries <+: after.entries := by
  cases advances with
  | same | freeze => exact List.prefix_rfl
  | append _ _ => exact List.prefix_append _ _

theorem Advances.eq_of_frozen (frozen : r.frozen = true) : after = r := by
  cases advances with
  | same => rfl
  | append thawed _ => exact absurd (thawed.symm.trans frozen) Bool.false_ne_true
  | freeze => rw [← frozen]

theorem Advances.distinct (distinct : (r.entries.map (·.name)).Nodup) :
    (after.entries.map (·.name)).Nodup := by
  cases advances with
  | same | freeze => exact distinct
  | append _ fits => exact distinct_extend distinct fits.distinct fits.free

theorem Advances.canonical (canonical : ∀ d ∈ r.entries, TypeName.key d.name = d.name) :
    ∀ d ∈ after.entries, TypeName.key d.name = d.name := by
  cases advances with
  | same | freeze => exact canonical
  | append _ fits => exact List.forall_mem_append.mpr ⟨canonical, fits.canonical⟩

end

theorem Settles.advances {α : Type} {r after : Registry} {result : Except Failure α}
    (settles : Settles r result after) : Advances r after := by
  cases settles with
  | refused cause => exact .same
  | answered answer advances => exact advances

theorem Filled.keys {r : Registry} (filled : Filled r) :
    (r.entries.map (·.name)).Nodup ∧ ∀ d ∈ r.entries, TypeName.key d.name = d.name := by
  induction filled with
  | empty => exact ⟨.nil, nofun⟩
  | @next r call _ ih =>
    have settles : Settles r (call.act.run r).result _ := call.settles ⟨rfl, rfl⟩
    have advances := settles.advances
    exact ⟨advances.distinct ih.1, advances.canonical ih.2⟩

/-- Whatever was asked of a registry before, no name comes twice in it and every
name is in its canonical spelling. A call that is refused changes nothing, even
if it came to register several entries. One that is answered only appends, and
to a frozen registry nothing. The fields of a struct append one signature for
each function pointer among them, in the order of the statements. -/
theorem filled_append_only {r : Registry} (filled : Filled r) :
    (r.entries.map (·.name)).Nodup ∧ (∀ d ∈ r.entries, TypeName.key d.name = d.name) ∧
      (∀ (call : Call) result after, call.act.Ends r result after →
        (∀ cause, result = .error cause → after = r) ∧ r.entries <+: after.entries ∧
          (r.frozen = true → after = r)) ∧
      ∀ tags struct body fields after, (addFields tags struct body).Ends r (.ok fields) after →
        after.entries = r.entries ++ signaturesOf struct body := by
  refine ⟨filled.keys.1, filled.keys.2, fun call result after ends => ?_,
    fun tags struct body fields after ends => ?_⟩
  · have settles := call.settles ends
    refine ⟨?_, settles.advances.appends, settles.advances.eq_of_frozen⟩
    rintro cause rfl
    cases settles
    rfl
  · exact congrArg Registry.entries ((addFields_settles ends).2 fields rfl)

/-- Primitives one of which comes twice, and a struct of an odd name with two function pointers. -/
def oddCalls : List Call :=
  [.insertPrimitives [("int", true), ("const  char*", false), (" int", false)],
    .addFields none "a  *b" "int (C *f)(int); int n; const char *(C *g)(void)"]

def oddRun : Registry := oddCalls.foldl (fun r call => (call.act.run r).state) {}

theorem filled_oddRun : Filled oddRun := (Filled.empty.next _).next _

theorem filled_append_only_oddRun :
    Filled oddRun ∧
      oddRun.entries.map (·.name.text) = ["int", "const char *", "a * b.f", "a * b.g"] ∧
      ((oddRun.entries.map (·.name)).Nodup ∧ (∀ d ∈ oddRun.entries, TypeName.key d.name = d.name) ∧
        (∀ (call : Call) result after, call.act.Ends oddRun result after →
          (∀ cause, result = .error cause → after = oddRun) ∧
            oddRun.entries <+: after.entries ∧ (oddRun.frozen = true → after = oddRun)) ∧
        ∀ tags struct body fields after,
          (addFields tags struct body).Ends oddRun (.ok fields) after →
            after.entries = oddRun.entries ++ signaturesOf struct body) :=
  ⟨filled_oddRun, by decide +kernel, filled_append_only filled_oddRun⟩

end Registry

end HeaderTypes
