import HeaderTypes.Proofs.Manifest.Reading

namespace HeaderTypes.Manifest
open Document
open Text (Loose)

section
variable {α : Type}

/-- A value that is missing or null gives no results, and one that is given is a list of which
they are read. -/
def Lists (reads : List Part → List α → Prop) : Option Part → Option (List α) → Prop
  | none, results? => results? = none
  | some value, results? =>
    ∃ items, value.items? = some items ∧ ∃ results, reads items results ∧ results? = some results

end

section
variable {entries : List (Atom × Part)}

section
variable {byDefault : Bool} {document : Part}

end

end

/-- What the lists of a document have to be. There are headers, and they differ. Primitives are
maps with flags, and their names differ. No header and no name is blank. -/
structure WellFormed (entries : List (Atom × Part)) : Prop where
  headers : ∃ items, (Part.lookup? "headers" entries).bind Part.items? = some items ∧ items ≠ [] ∧
    (∀ item ∈ items, ∃ text, stripped? item = some text ∧ text.isEmpty = false) ∧
    (items.map stripped?).Nodup
  primitives : ∀ value, given? "primitives" entries = some value →
    ∃ items, value.items? = some items ∧
      (∀ item ∈ items, ∃ primitive, primitive? item = some primitive ∧ primitive.1.isEmpty = false) ∧
      (items.map fun item => (primitive? item).map (·.1)).Nodup
  conventions : ∀ value, given? "abi_tags" entries = some value →
    ∃ items, value.items? = some items ∧ items ≠ [] ∧
      ∀ item ∈ items, ∃ text, stripped? item = some text ∧ text.isEmpty = false

end HeaderTypes.Manifest
