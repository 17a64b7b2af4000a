import HeaderTypes.Proofs.Registry.Registration

namespace HeaderTypes

/-- The types that a field statement names. -/
def Declaration.types : Declaration → List String
  | direct type _ => [type]
  | pointer returns _ _ arguments => returns :: arguments

/-- The types that the fields of a struct definition name. -/
def StructBlock.types (block : StructBlock) : List String :=
  ((Declaration.statements block.body).filterMap Declaration.ofStatement?).flatMap (·.types)

/-- A name is that of a struct or of one of its signatures. -/
def TypeName.BelongsTo (struct : String) (name : Text.Loose) : Prop :=
  name = struct ∨ ∃ field : String, name = ofSignature struct field

/-- A name belongs to one struct only. -/
theorem TypeName.BelongsTo.unique {name : Text.Loose} {a b : String} (first : BelongsTo a name)
    (second : BelongsTo b name) (named : Text.isName a.toList) (named' : Text.isName b.toList) :
    a = b := by
  rcases first with same | ⟨field, same⟩ <;> rcases second with same' | ⟨field', same'⟩ <;>
    have text := congrArg Text.Loose.text (same.symm.trans same')
  · exact text
  · exact absurd text.symm (TypeName.ofSignature_ne_name named)
  · exact absurd text (TypeName.ofSignature_ne_name named')
  · exact (TypeName.ofSignature_inj named named' text).1

namespace Registry
open HeaderTypes.TypeName

/-- A statement is read alike wherever the types that it names are known. -/
theorem Reads.mono {tags : Tags} {r r' : Registry} {struct statement : String}
    {part : Field × Option Descriptor} (reads : Reads tags r struct statement part)
    (known : ∀ declaration ∈ Declaration.ofStatement? statement, ∀ type ∈ declaration.types,
      r.has (canonical type) → r'.has (canonical type)) : Reads tags r' struct statement part := by
  cases reads with
  | direct read here => exact .direct read (known _ read _ (List.mem_singleton_self _) here)
  | pointer read accepted some here returnHere =>
    refine .pointer read accepted some (fun type listed => ?_) fun other => ?_
    · exact known _ read type (List.mem_cons_of_mem _ listed) (here type listed)
    · exact known _ read _ List.mem_cons_self (returnHere other)

theorem forall₂_reads_mono {tags : Tags} {r r' : Registry} {struct : String}
    {statements : List String} {parts : List (Field × Option Descriptor)}
    (reads : List.Forall₂ (Reads tags r struct) statements parts)
    (known : ∀ type ∈ (statements.filterMap Declaration.ofStatement?).flatMap (·.types),
      r.has (canonical type) → r'.has (canonical type)) :
    List.Forall₂ (Reads tags r' struct) statements parts := by
  induction reads with
  | nil => exact .nil
  | @cons statement part statements parts first _ ih =>
    refine .cons (first.mono fun declaration read type named => ?_) (ih fun type named => ?_)
    · exact known type (List.mem_flatMap.mpr
        ⟨declaration, List.mem_filterMap.mpr ⟨statement, List.mem_cons_self, read⟩, named⟩)
    · obtain ⟨declaration, listed, here⟩ := List.mem_flatMap.mp named
      obtain ⟨other, later, read⟩ := List.mem_filterMap.mp listed
      exact known type (List.mem_flatMap.mpr
        ⟨declaration, List.mem_filterMap.mpr ⟨other, List.mem_cons_of_mem _ later, read⟩, here⟩)

/-- A registry has what another one has and, besides, some entries of its own. -/
def Gains (r r' : Registry) (extra : List Descriptor) : Prop :=
  ∀ key, r'.entry? key = (r.entry? key).or (extra.find? (·.name = key))

theorem gains_extend (r : Registry) (extra : List Descriptor) : r.Gains (r.extend extra) extra :=
  entry?_extend r extra

section
variable {r r' : Registry} {extra : List Descriptor}

theorem Gains.entry?_of_has (gains : r.Gains r' extra) {key : Text.Loose} (known : r.has key) :
    r'.entry? key = r.entry? key := by
  obtain ⟨d, found⟩ := Option.isSome_iff_exists.mp known
  rw [gains, found, Option.some_or]

theorem Gains.has (gains : r.Gains r' extra) {key : Text.Loose} (known : r.has key) : r'.has key := by
  rw [Registry.has, gains.entry?_of_has known]
  exact known

/-- A name that is free and not among the gains is still free. -/
theorem Gains.has_eq_false (gains : r.Gains r' extra) {key : Text.Loose} (free : r.has key = false)
    (foreign : ∀ d ∈ extra, d.name ≠ key) : r'.has key = false := by
  have none : extra.find? (·.name = key) = none := by simpa using foreign
  rw [Registry.has, gains, none, Option.or_none]
  exact free

/-- The same entries go behind both registries, if none has the name of a gain. -/
theorem Gains.extend (gains : r.Gains r' extra) {more : List Descriptor}
    (foreign : ∀ d ∈ extra, ∀ e ∈ more, d.name ≠ e.name) :
    (r.extend more).Gains (r'.extend more) extra := by
  intro key
  rw [entry?_extend, entry?_extend, gains]
  cases found : more.find? (·.name = key) with
  | none => rw [Option.or_none, Option.or_none]
  | some e =>
    have called : e.name = key := by simpa using List.find?_some found
    have none : extra.find? (·.name = key) = none := by
      simpa [called] using fun d listed => foreign d listed e (List.mem_of_find?_eq_some found)
    rw [none, Option.or_none, Option.or_none]

end

namespace Registration
variable {tags : Tags} {r r' : Registry} {block : StructBlock} (reg : Registration tags r block)

/-- A definition that can be registered in one registry can be registered in
every other where its types are known and its names are free. -/
def onto (known : ∀ type ∈ block.types, r.has (canonical type) → r'.has (canonical type))
    (free : r'.has block.name = false) (fresh : ∀ d ∈ reg.signatures, r'.has d.name = false) :
    Registration tags r' block where
  parts := reg.parts
  named := reg.named
  free := free
  reads := forall₂_reads_mono reg.reads known
  fresh := fresh
  distinct := reg.distinct

/-- The entries that a definition adds. -/
def added : List Descriptor := reg.signatures ++ [reg.struct]

theorem registry_eq : reg.registry = r.extend reg.added := rfl

theorem known_eq : reg.known = r.extend reg.signatures := rfl

theorem belongsTo_of_mem_added {d : Descriptor} (member : d ∈ reg.added) : BelongsTo block.name d.name := by
  rcases List.mem_append.mp member with signed | struct
  · obtain ⟨name, returns, arguments, _, rfl, _⟩ := reg.signature_of_mem signed
    exact Or.inr ⟨name, rfl⟩
  · cases List.mem_singleton.mp struct
    exact Or.inl rfl

/-- What is not named after the struct has none of the names that are added. -/
theorem name_ne_of_mem_added {d e : Descriptor} (foreign : ¬ BelongsTo block.name d.name)
    (member : e ∈ reg.added) : d.name ≠ e.name := by
  intro same
  have owned := reg.belongsTo_of_mem_added member
  rw [← same] at owned
  exact foreign owned

end Registration

section
variable {tags : Tags} {r r' : Registry} {block : StructBlock} {extra : List Descriptor}
  (gains : r.Gains r' extra) (reg : Registration tags r block)
  (foreign : ∀ d ∈ extra, ¬ BelongsTo block.name d.name)

/-- Gains that are not named after a struct do not stand in its way. -/
def Gains.registration : Registration tags r' block :=
  reg.onto (fun _ _ => gains.has)
    (gains.has_eq_false reg.free fun d listed same => foreign d listed (Or.inl same))
    fun _ signed => gains.has_eq_false (reg.fresh _ signed) fun d listed =>
      reg.name_ne_of_mem_added (foreign d listed) (List.mem_append_left _ signed)

/-- Nor do they change whether the struct is plain data. -/
theorem Gains.compatible_eq : (gains.registration reg foreign).compatible = reg.compatible := by
  have grown : reg.known.Gains (gains.registration reg foreign).known extra :=
    gains.extend fun d listed e signed =>
      reg.name_ne_of_mem_added (foreign d listed) (List.mem_append_left _ signed)
  unfold Registration.compatible
  rw [Bool.eq_iff_iff, List.all_eq_true, List.all_eq_true]
  refine forall₂_congr fun field listed => ?_
  obtain ⟨known, canonical⟩ := reg.field_known listed
  rw [find?_of_canonical canonical, find?_of_canonical canonical, grown.entry?_of_has known]

theorem Gains.added_eq : (gains.registration reg foreign).added = reg.added := by
  rw [Registration.added, Registration.struct, gains.compatible_eq reg foreign]
  rfl

theorem Gains.registry : reg.registry.Gains (gains.registration reg foreign).registry extra := by
  rw [Registration.registry_eq, Registration.registry_eq, gains.added_eq reg foreign]
  exact gains.extend fun d listed e => reg.name_ne_of_mem_added (foreign d listed)

end

end Registry

end HeaderTypes
