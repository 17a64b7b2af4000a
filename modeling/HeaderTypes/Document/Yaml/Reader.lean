import HeaderTypes.Document.Yaml.Cells

namespace HeaderTypes.Document.Yaml

/-- What a document holds. Nothing more than one document may be there. -/
def read (text : List Char) : Attempt Part := do
  let graph ← Graph.ofTokens (.ofText text)
  graph.part

end HeaderTypes.Document.Yaml
