import HeaderTypes.Proofs.Registry.Reading
import HeaderTypes.Model
import HeaderTypes.Registry.Compatibility
import HeaderTypes.Registry.Primitives

namespace HeaderTypes.Registry
open HeaderTypes.Action

theorem readField_keeps (tags : Tags) (struct statement : String) (r : Registry) :
    (readField tags struct statement).Keeps r :=
  (readField_ends_same ⟨rfl, rfl⟩).symm

theorem readEach_keeps (tags : Tags) (struct : String) (statements : List String) (r : Registry) :
    (readEach tags struct statements).Keeps r := by
  induction statements with
  | nil => rfl
  | cons statement statements ih =>
    exact (readField_keeps tags struct statement r).bind fun _ => ih.bind fun _ => rfl

section
variable {r : Registry} (frozen : r.frozen = true)
include frozen

theorem insert_keeps (d : Descriptor) : (insert d).Keeps r := (insert_ends_of_frozen frozen d).2

theorem add_keeps (d : Descriptor) : (add d).Keeps r := by
  refine (insert_keeps frozen d).bind fun added => ?_
  cases added <;> rfl

theorem addEach_keeps (ds : List Descriptor) : (addEach ds).Keeps r := by
  induction ds with
  | nil => rfl
  | cons d ds ih => exact (add_keeps frozen d).bind fun _ => ih

theorem addField_keeps (tags : Tags) (struct statement : String) :
    (addField tags struct statement).Keeps r := by
  refine (readField_keeps tags struct statement r).bind fun part => ?_
  obtain ⟨field, signature⟩ := part
  cases signature with
  | none => rfl
  | some d => exact (add_keeps frozen d).bind fun _ => rfl

theorem addFields_keeps (tags : Tags) (struct body : String) :
    (addFields tags struct body).Keeps r := by
  refine (readEach_keeps tags struct _ r).bind fun parts => keeps_get_bind ?_
  split
  · rfl
  · exact (addEach_keeps frozen _).bind fun _ => rfl

theorem addStruct_keeps (name : String) (fields : List Field) : (addStruct name fields).Keeps r := by
  refine keeps_get_bind ((keeps_ofExcept _ r).bind fun compatible => ?_)
  exact (add_keeps frozen _).bind fun _ => rfl

theorem insertPrimitive_keeps (name : Text.Loose) (compatible : Bool) :
    (insertPrimitive name compatible).Keeps r := by
  refine (insert_keeps frozen _).bind fun added => ?_
  cases added <;> rfl

theorem insertEach_keeps (primitives : List (Text.Loose × Bool)) : (insertEach primitives).Keeps r := by
  induction primitives with
  | nil => rfl
  | cons primitive primitives ih =>
    exact (insertPrimitive_keeps frozen _ _).bind fun _ => ih.bind fun _ => rfl

theorem insertPrimitives_keeps (primitives : List (Text.Loose × Bool)) :
    (insertPrimitives primitives).Keeps r :=
  (insertEach_keeps frozen primitives).bind fun _ => rfl

theorem close_keeps : close.Keeps r := by
  obtain ⟨entries, _⟩ := r
  cases frozen
  rfl

end

end HeaderTypes.Registry
