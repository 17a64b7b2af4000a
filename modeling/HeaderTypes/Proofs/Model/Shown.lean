import HeaderTypes.Proofs.Registry.WellFormed
import HeaderTypes.Proofs.Scan.Reach

namespace HeaderTypes

/-- The return type and the argument types of a signature. -/
def Descriptor.signature? (d : Descriptor) : Option (Option String × List String) :=
  match d.shape with
  | .signature returns arguments => some (returns, arguments)
  | _ => none

theorem Descriptor.signature?_eq_some_iff {d : Descriptor} {returns : Option String}
    {arguments : List String} :
    d.signature? = some (returns, arguments) ↔ d.shape = .signature returns arguments := by
  unfold signature?
  cases d.shape <;> simp

theorem Descriptor.signature?_eq_none_iff {d : Descriptor} :
    d.signature? = none ↔ d.isSignature = false := by
  unfold signature? isSignature
  cases d.shape <;> simp

theorem Descriptor.shape_of_isSignature {d : Descriptor} (signature : d.isSignature) :
    ∃ returns arguments, d.shape = .signature returns arguments := by
  unfold isSignature at signature
  split at signature
  · exact ⟨_, _, ‹_›⟩
  · cases signature

namespace Registry

def shownField (r : Registry) (field : Field) : ModelField :=
  ⟨field.type, field.name, (r.find? field.type).bind (·.signature?)⟩

def shownStruct (r : Registry) (d : Descriptor) : ModelStruct :=
  ⟨d.name.text, d.compatible, d.fields.map r.shownField⟩

/-- The model of a registry in which every field type is registered. -/
def shown (r : Registry) : Model := ⟨r.structs.map r.shownStruct, r.entries.filter (·.isBase)⟩

section
variable {r : Registry}

theorem modelField_eq {field : Field} {d : Descriptor} (found : r.find? field.type = some d) :
    r.modelField field = .ok (r.shownField field) := by
  rw [modelField, shownField, entry_of_find? found, found]
  rfl

theorem modelFields_eq {fields : List Field}
    (known : ∀ field ∈ fields, ∃ d, r.find? field.type = some d) :
    r.modelFields fields = .ok (fields.map r.shownField) := by
  induction fields with
  | nil => rfl
  | cons field fields ih =>
    obtain ⟨⟨d, found⟩, others⟩ := List.forall_mem_cons.mp known
    rw [modelFields, modelField_eq found, ih others]
    rfl

theorem modelStructs_eq {ds : List Descriptor}
    (known : ∀ d ∈ ds, ∀ field ∈ d.fields, ∃ e, r.find? field.type = some e) :
    r.modelStructs ds = .ok (ds.map r.shownStruct) := by
  induction ds with
  | nil => rfl
  | cons d ds ih =>
    obtain ⟨first, others⟩ := List.forall_mem_cons.mp known
    rw [modelStructs, modelFields_eq first, ih others]
    rfl

/-- A well formed registry has a model. -/
theorem WellFormed.model_eq (wellFormed : r.WellFormed) : r.model = .ok r.shown := by
  have known : ∀ d ∈ r.structs, ∀ field ∈ d.fields, ∃ e, r.find? field.type = some e := by
    intro d member field listed
    obtain ⟨before, after, split⟩ := List.append_of_mem (List.mem_filter.mp member).1
    obtain ⟨e, _, _, _, found⟩ := wellFormed.find?_field split listed
    exact ⟨e, found⟩
  rw [model, modelStructs_eq known]
  rfl

theorem modelFields_frozen (r : Registry) (fields : List Field) :
    modelFields { r with frozen := true } fields = r.modelFields fields := by
  induction fields with
  | nil => rfl
  | cons field fields ih =>
    rw [modelFields, modelFields, ih]
    rfl

theorem modelStructs_frozen (r : Registry) (ds : List Descriptor) :
    modelStructs { r with frozen := true } ds = r.modelStructs ds := by
  induction ds with
  | nil => rfl
  | cons d ds ih => rw [modelStructs, modelStructs, modelFields_frozen, ih]

/-- The end of registration does not show in the model. -/
theorem model_frozen (r : Registry) : model { r with frozen := true } = r.model := by
  rw [model, model, modelStructs_frozen]
  rfl

end

end Registry

namespace Scan
open HeaderTypes.Action Registry

/-- A scan whose registration is ended. -/
def closed (scan : Scan) : Scan := { scan with registry := { scan.registry with frozen := true } }

theorem close_ends (scan : Scan) : close.Ends scan (.ok scan.registry.structs) scan.closed :=
  (onRegistry_ends_iff scan).mpr ⟨_, close_ends_iff.mpr ⟨rfl, rfl⟩, rfl⟩

theorem finish_ends (scan : Scan) : finish.Ends scan scan.registry.model scan.closed := by
  refine (close_ends scan).bind ?_
  rw [ends_get_bind_iff, ends_ofExcept_iff]
  exact ⟨model_frozen scan.registry, rfl⟩

theorem Operation.after_model (scan : Scan) : (Operation.model).after scan = scan.closed := by
  have whole : finish.Ends scan _ _ := ⟨rfl, rfl⟩
  exact (whole.unique (finish_ends scan)).2

theorem finish_ends_of_reach {tags : Tags} {check : SyntaxCheck} {scan : Scan}
    (reach : Reach (fresh tags check) scan) : finish.Ends scan (.ok scan.registry.shown) scan.closed := by
  have wellFormed := wellFormed_empty.of_grows reach.grows_of_fresh
  exact wellFormed.model_eq ▸ finish_ends scan

end Scan

end HeaderTypes
