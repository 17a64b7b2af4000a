import HeaderTypes.Document.Json.Reader
import HeaderTypes.Proofs.Document.Printed

namespace HeaderTypes.Document.Json
open Text (Loose pointsOf)

section
variable {β : Type} {read : Nat → List Char → Step (List β)}

end

section
variable {room level : Nat}

end

end HeaderTypes.Document.Json
