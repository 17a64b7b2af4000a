import HeaderTypes.Document.Value
import HeaderTypes.Event
import HeaderTypes.Model

namespace HeaderTypes
open Document

/-- A list of texts as a value. -/
def textList (texts : List String) : Value := .list (texts.map .text)

/-- A map with texts as keys. -/
def mapOf (entries : List (String × Value)) : Value :=
  .map (entries.map fun (key, value) => (.text key, value))

/-- A text, or null if there is none. -/
def textOrNull : Option String → Value
  | some text => .text text
  | none => .null

/-- The parts of a signature under their names. -/
def signatureEntries (returns : Option String) (arguments : List String) : List (String × Value) :=
  [("return_type", textOrNull returns), ("arg_types", textList arguments)]

def Field.value (field : Field) : Value :=
  mapOf [("type", .text field.type), ("name", .text field.name)]

/-- A descriptor with what its kind adds to it. -/
def Descriptor.value (d : Descriptor) : Value :=
  mapOf <|
    [("name", .scalar (.text d.name)), ("kind", .text d.shape.kind),
      ("compatible", .bool d.compatible)] ++
      match d.shape with
      | .struct fields => [("fields", .list (fields.map (·.value)))]
      | .signature returns arguments => signatureEntries returns arguments
      | _ => []

def ModelField.value (field : ModelField) : Value :=
  mapOf <|
    [("type", .text field.type), ("name", .text field.name)] ++
      match field.signature with
      | some (returns, arguments) => [("signature", mapOf (signatureEntries returns arguments))]
      | none => []

def ModelStruct.value (struct : ModelStruct) : Value :=
  mapOf [("name", .text struct.name), ("compatible", .bool struct.compatible),
    ("fields", .list (struct.fields.map (·.value)))]

def Model.value (model : Model) : Value :=
  mapOf [("structs", .list (model.structs.map (·.value))),
    ("primitives", .list (model.primitives.map (·.value)))]

def Stats.value (stats : Stats) : Value :=
  mapOf [("headers_scanned", .int stats.headersScanned),
    ("structs_registered", .int stats.structsRegistered),
    ("structs_compatible", .int stats.structsCompatible),
    ("structs_skipped", .int stats.structsSkipped),
    ("signatures_registered", .int stats.signaturesRegistered),
    ("syntax_errors", .int stats.syntaxErrors)]

end HeaderTypes
