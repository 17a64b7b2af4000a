import HeaderTypes.Proofs.Document.ReadBack
import Mathlib.Data.List.Basic

namespace HeaderTypes
open Document

theorem mapOf_inj {entries entries' : List (String × Value)} (same : mapOf entries = mapOf entries') :
    entries = entries' := by
  refine List.map_injective_iff.mpr (fun entry other same => ?_) (Value.map.inj same)
  obtain ⟨key, value⟩ := entry
  obtain ⟨key', value'⟩ := other
  cases same
  rfl

theorem textList_inj {texts texts' : List String} (same : textList texts = textList texts') :
    texts = texts' := by
  refine List.map_injective_iff.mpr (fun text other same => ?_) (Value.list.inj same)
  cases same
  rfl

theorem textOrNull_inj {text text' : Option String} (same : textOrNull text = textOrNull text') :
    text = text' := by
  cases text <;> cases text' <;> cases same <;> rfl

theorem signatureEntries_inj {returns returns' : Option String} {arguments arguments' : List String}
    (same : signatureEntries returns arguments = signatureEntries returns' arguments') :
    returns = returns' ∧ arguments = arguments' := by
  simp only [signatureEntries, List.cons.injEq, Prod.mk.injEq, true_and, and_true] at same
  exact ⟨textOrNull_inj same.1, textList_inj same.2⟩

/-- A field without a signature is written with fewer entries, so that none is taken for another. -/
theorem ModelField.value_inj {field field' : ModelField} (same : field.value = field'.value) :
    field = field' := by
  obtain ⟨type, name, signature⟩ := field
  obtain ⟨type', name', signature'⟩ := field'
  have entries := mapOf_inj same
  simp only [List.cons_append, List.nil_append, List.cons.injEq, Prod.mk.injEq, true_and] at entries
  obtain ⟨sameType, sameName, rest⟩ := entries
  cases sameType
  cases sameName
  rcases signature with _ | ⟨returns, arguments⟩ <;> rcases signature' with _ | ⟨returns', arguments'⟩
  · rfl
  · cases rest
  · cases rest
  · simp only [List.cons.injEq, Prod.mk.injEq, true_and, and_true] at rest
    obtain ⟨rfl, rfl⟩ := signatureEntries_inj (mapOf_inj rest)
    rfl

theorem ModelStruct.value_inj {s s' : ModelStruct} (same : s.value = s'.value) : s = s' := by
  obtain ⟨name, compatible, fields⟩ := s
  obtain ⟨name', compatible', fields'⟩ := s'
  have entries := mapOf_inj same
  simp only [List.cons.injEq, Prod.mk.injEq, true_and, and_true] at entries
  obtain ⟨sameName, sameFlag, sameFields⟩ := entries
  cases sameName
  cases sameFlag
  cases List.map_injective_iff.mpr (fun _ _ => ModelField.value_inj) (Value.list.inj sameFields)
  rfl

theorem Descriptor.value_inj {d d' : Descriptor} (primitive : d.shape = .primitive)
    (primitive' : d'.shape = .primitive) (same : d.value = d'.value) : d = d' := by
  obtain ⟨name, compatible, shape⟩ := d
  obtain ⟨name', compatible', shape'⟩ := d'
  cases primitive
  cases primitive'
  have entries := mapOf_inj same
  simp only [List.append_nil, List.cons.injEq, Prod.mk.injEq, true_and, and_true] at entries
  cases entries.1
  cases entries.2
  rfl

theorem map_value_inj {ds ds' : List Descriptor} (primitives : ∀ d ∈ ds, d.shape = .primitive)
    (primitives' : ∀ d ∈ ds', d.shape = .primitive)
    (same : ds.map (·.value) = ds'.map (·.value)) : ds = ds' := by
  induction ds generalizing ds' with
  | nil => exact (List.map_eq_nil_iff.mp same.symm).symm
  | cons d ds ih =>
    cases ds' with
    | nil => cases same
    | cons d' ds' =>
      obtain ⟨first, others⟩ := List.cons.inj same
      obtain ⟨plain, primitives⟩ := List.forall_mem_cons.mp primitives
      obtain ⟨plain', primitives'⟩ := List.forall_mem_cons.mp primitives'
      rw [Descriptor.value_inj plain plain' first, ih primitives primitives' others]

/-- Models of primitives of one kind are told apart by how they are written. -/
theorem Model.value_inj {model model' : Model} (primitives : ∀ p ∈ model.primitives, p.shape = .primitive)
    (primitives' : ∀ p ∈ model'.primitives, p.shape = .primitive)
    (same : model.value = model'.value) : model = model' := by
  obtain ⟨structs, base⟩ := model
  obtain ⟨structs', base'⟩ := model'
  have entries := mapOf_inj same
  simp only [List.cons.injEq, Prod.mk.injEq, true_and, and_true] at entries
  cases List.map_injective_iff.mpr (fun _ _ => ModelStruct.value_inj) (Value.list.inj entries.1)
  cases map_value_inj primitives primitives' (Value.list.inj entries.2)
  rfl

section
open Json
variable {room : Nat}

theorem textual_list {α : Type} {value : α → Value} {items : List α}
    (each : ∀ a ∈ items, Textual room (value a)) :
    Textual (room + 1) (.list (items.map value)) := by
  refine .list fun item member => ?_
  obtain ⟨a, listed, rfl⟩ := List.mem_map.mp member
  exact each a listed

theorem textual_textOrNull (text : Option String) : Textual room (textOrNull text) := by
  cases text with
  | none => exact .null
  | some text => exact .text text

theorem textual_signatureEntries (returns : Option String) (arguments : List String) :
    ∀ e ∈ signatureEntries returns arguments, Textual (room + 1) e.2 := by
  simp only [signatureEntries, List.forall_mem_cons]
  exact ⟨textual_textOrNull returns, textual_list fun text _ => .text text, nofun⟩

theorem Field.textual_value (field : Field) : Textual (room + 1) field.value := by
  refine .map (show ["type", "name"].Nodup by decide) ?_
  simp only [List.forall_mem_cons]
  exact ⟨.text field.type, .text field.name, nofun⟩

theorem Descriptor.textual_value {d : Descriptor} (whole : d.name.stoodFor = []) :
    Textual (room + 3) d.value := by
  obtain ⟨⟨name, stoodFor⟩, compatible, shape⟩ := d
  cases whole
  have shown : ∀ e ∈ [("name", Value.text name), ("kind", .text shape.kind),
      ("compatible", .bool compatible)], Textual (room + 2) e.2 := by
    simp only [List.forall_mem_cons]
    exact ⟨.text name, .text shape.kind, .bool compatible, nofun⟩
  cases shape with
  | struct fields =>
    refine .map (show ["name", "kind", "compatible", "fields"].Nodup by decide) ?_
    refine List.forall_mem_append.mpr ⟨shown, ?_⟩
    simp only [List.forall_mem_singleton]
    exact textual_list fun field _ => field.textual_value
  | signature returns arguments =>
    refine .map (show ["name", "kind", "compatible", "return_type", "arg_types"].Nodup by decide) ?_
    exact List.forall_mem_append.mpr ⟨shown, textual_signatureEntries returns arguments⟩
  | _ =>
    refine .map (show ["name", "kind", "compatible"].Nodup by decide) ?_
    rw [List.append_nil]
    exact shown

theorem ModelField.textual_value (field : ModelField) : Textual (room + 3) field.value := by
  obtain ⟨type, name, signature⟩ := field
  have shown : ∀ e ∈ [("type", Value.text type), ("name", .text name)], Textual (room + 2) e.2 := by
    simp only [List.forall_mem_cons]
    exact ⟨.text type, .text name, nofun⟩
  cases signature with
  | none =>
    refine .map (show ["type", "name"].Nodup by decide) ?_
    rw [List.append_nil]
    exact shown
  | some signature =>
    refine .map (show ["type", "name", "signature"].Nodup by decide) ?_
    refine List.forall_mem_append.mpr ⟨shown, ?_⟩
    simp only [List.forall_mem_singleton]
    exact .map (show ["return_type", "arg_types"].Nodup by decide)
      (textual_signatureEntries signature.1 signature.2)

theorem ModelStruct.textual_value (struct : ModelStruct) : Textual (room + 5) struct.value := by
  refine .map (show ["name", "compatible", "fields"].Nodup by decide) ?_
  simp only [List.forall_mem_cons]
  exact ⟨.text struct.name, .bool struct.compatible,
    textual_list fun field _ => field.textual_value, nofun⟩

theorem Model.textual_value {model : Model}
    (whole : ∀ p ∈ model.primitives, p.name.stoodFor = []) : Textual (room + 7) model.value := by
  refine .map (show ["structs", "primitives"].Nodup by decide) ?_
  simp only [List.forall_mem_cons]
  exact ⟨textual_list fun struct _ => struct.textual_value,
    textual_list fun p listed => Descriptor.textual_value (whole p listed), nofun⟩

end

end HeaderTypes
