import HeaderTypes.Proofs.Manifest.Primitives

namespace HeaderTypes.Manifest
open Document
open Text (Loose)

section
variable {ε α β : Type}

end

section
variable {α : Type} {read : Part → Read α} {key : α → Loose} {repeated : Loose → ManifestFault}
  {seen : List Loose} {items : List Part} {results : List α}

end

section
variable {part : Part} {key : String} {entries : List (Atom × Part)} {text : Loose}

/-- The text of a part without the blanks at either end, if it has a text. -/
def stripped? (part : Part) : Option Loose := part.text?.map (·.trimmed)

/-- The value of a key has a text, if there is one. -/
def Told (entries : List (Atom × Part)) (key : String) : Prop :=
  ∀ part, Part.lookup? key entries = some part → part.text?.isSome

/-- The name and the flag of a map that has both. -/
def primitive? (item : Part) : Option (Loose × Bool) := do
  let entries ← item.entries?
  let name ← (Part.lookup? "name" entries).bind stripped?
  let compatible ← (Part.lookup? "compatible" entries).bind Part.bool?
  return (name, compatible)

end

section
variable {items : List Part}

/-- Items have texts in their order, which are not blank. -/
def Written (items : List Part) (texts : List Loose) : Prop :=
  List.Forall₂ (fun item text => stripped? item = some text ∧ text.isEmpty = false) items texts

/-- Items are maps with names and flags in their order, and the names are not blank. -/
def Flagged (items : List Part) (primitives : List (Loose × Bool)) : Prop :=
  List.Forall₂ (fun item primitive =>
    primitive? item = some primitive ∧ primitive.1.isEmpty = false) items primitives

end

end HeaderTypes.Manifest
