import HeaderTypes.Document.Yaml.Kind
import HeaderTypes.Document.Yaml.Token

namespace HeaderTypes.Document.Yaml

/-- What a node holds. Nodes inside it are told by their places, so that a
collection may be inside itself. -/
inductive Content
  | scalar (points : List Nat)
  | sequence (items : List Nat)
  | mapping (entries : List (Nat × Nat))

/-- A part of a document that is not read as a value yet. -/
structure Node where
  kind : Kind
  content : Content

/-- The nodes of a document, and the place of the one that is the whole of it. -/
structure Graph where
  nodes : Array Node
  root : Nat

/-- What is left of a list of tokens, the meaning of handles, the places of
anchored nodes, the nodes so far, and how many collections are open. -/
structure Source where
  rest : Tokens
  handles : List (String × String)
  anchors : List (String × Nat)
  nodes : Array Node
  depth : Nat

/-- Reading takes tokens and adds nodes, or fails. -/
abbrev Parse := StateT Source Attempt

namespace Parse

/-- Collections are not inside more others than this. -/
def deepest : Nat := 488

/-- The token that comes next. The fault behind the last token shows as soon as
a token is looked for there. -/
def peek : Parse (Option Token) := do
  let rest := (← get).rest
  match rest.tokens, rest.fault with
  | token :: _, _ => return some token
  | [], some fault => throw fault
  | [], none => return none

def skip : Parse Unit :=
  modify fun source => { source with rest := ⟨source.rest.tokens.tail, source.rest.fault⟩ }

/-- Takes a token if it comes next. -/
def accept (token : Token) : Parse Bool := do
  if (← peek) = some token then
    skip
    return true
  else return false

def require (token : Token) : Parse Unit := do
  if ← accept token then return () else throw .malformed

/-- One of some tokens comes next. -/
def atOneOf (tokens : List Token) : Parse Bool := do
  match ← peek with
  | some token => return tokens.contains token
  | none => return false

def anchor? : Parse (Option String) := do
  match ← peek with
  | some (.anchor name) =>
    skip
    return some name
  | _ => return none

def tag? : Parse (Option (Option String × String)) := do
  match ← peek with
  | some (.tag handle suffix) =>
    skip
    return some (handle, suffix)
  | _ => return none

/-- A tag with its handle spelled out. -/
def spellTag : Option (Option String × String) → Parse (Option String)
  | none => return none
  | some (none, suffix) => return some suffix
  | some (some handle, suffix) => do
    match (← get).handles.lookup handle with
    | some start => return some (start ++ suffix)
    | none => throw .malformed

/-- An anchor and a tag in either order. -/
def properties : Parse (Option String × Option String) := do
  match ← anchor? with
  | some name => return (some name, ← spellTag (← tag?))
  | none =>
    let tag ← tag?
    let anchor ← anchor?
    return (anchor, ← spellTag tag)

/-- Adds a node. Its anchor, if it has one, is not that of another node. -/
def add (anchor : Option String) (node : Node) : Parse Nat := do
  let source ← get
  if anchor.any fun name => (source.anchors.lookup name).isSome then throw .malformed
  else
    let place := source.nodes.size
    set { source with
      anchors := (anchor.map (·, place)).toList ++ source.anchors
      nodes := source.nodes.push node }
    return place

/-- Nothing is written where a node belongs. -/
def addEmpty : Parse Nat := add none ⟨.null, .scalar []⟩

/-- The place of the node with an anchor. -/
def named (name : String) : Parse Nat := do
  match (← get).anchors.lookup name with
  | some place => return place
  | none => throw .malformed

/-- A text has the kind that its tag tells, or else that of its form, if it is
plain or its tag leaves that open. -/
def textKind (tag : Option String) (plain : Bool) (points : List Nat) : Kind :=
  match tag with
  | none => if plain then .ofForm (Text.ofPoints points) else .text
  | some "!" => .ofForm (Text.ofPoints points)
  | some tag => .ofTag tag

/-- A collection has the kind that its tag tells, or else its own. -/
def collectionKind (tag : Option String) (own : Kind) : Kind :=
  match tag with
  | none | some "!" => own
  | some tag => .ofTag tag

/-- Adds a collection, whose anchor can be used inside it, and reads what it holds. -/
def collect (anchor tag : Option String) (own : Kind) (read : Parse Content) : Parse Nat := do
  let depth := (← get).depth
  if deepest ≤ depth then throw .depth
  else
    let kind := collectionKind tag own
    let place ← add anchor ⟨kind, .sequence []⟩
    modify fun source => { source with depth := depth + 1 }
    let content ← read
    modify fun source => { source with
      depth, nodes := source.nodes.setIfInBounds place ⟨kind, content⟩ }
    return place

mutual

/-- Reads a node. In a block there may be block collections, and as the value
of a key also a list that is not further in. Four units of fuel are enough for
every token. -/
def read : (fuel : Nat) → (block indentless : Bool) → Parse Nat
  | 0, _, _ => throw .malformed
  | fuel + 1, block, indentless => do
    if let some (.alias name) ← peek then
      skip
      named name
    else
      let (anchor, tag) ← properties
      match ← peek with
      | some (.scalar plain points) =>
        skip
        add anchor ⟨textKind tag plain points, .scalar points⟩
      | some .flowSequenceStart =>
        skip
        collect anchor tag .sequence (.sequence <$> readFlowItems fuel true)
      | some .flowMappingStart =>
        skip
        collect anchor tag .mapping (.mapping <$> readFlowEntries fuel true)
      | next =>
        if indentless && next = some .entry then
          collect anchor tag .sequence (.sequence <$> readIndentless fuel)
        else if block && next = some .sequenceStart then
          skip
          collect anchor tag .sequence (.sequence <$> readItems fuel)
        else if block && next = some .mappingStart then
          skip
          collect anchor tag .mapping (.mapping <$> readEntries fuel)
        else if anchor.isSome || tag.isSome then add anchor ⟨textKind tag true [], .scalar []⟩
        else throw .malformed

/-- Reads a node unless one of some tokens comes, before which there is none. -/
def readOrEmpty : (fuel : Nat) → (block indentless : Bool) → List Token → Parse Nat
  | 0, _, _, _ => throw .malformed
  | fuel + 1, block, indentless, ends => do
    if ← atOneOf ends then addEmpty else read fuel block indentless

/-- Reads the items of a block list. -/
def readItems : (fuel : Nat) → Parse (List Nat)
  | 0 => throw .malformed
  | fuel + 1 => do
    if ← accept .entry then
      let item ← readOrEmpty fuel true false [.entry, .blockEnd]
      let items ← readItems fuel
      return item :: items
    else
      require .blockEnd
      return []

/-- Reads the items of a list that is the value of a key and not further in. -/
def readIndentless : (fuel : Nat) → Parse (List Nat)
  | 0 => throw .malformed
  | fuel + 1 => do
    if ← accept .entry then
      let item ← readOrEmpty fuel true false [.entry, .key, .value, .blockEnd]
      let items ← readIndentless fuel
      return item :: items
    else return []

/-- Reads the value of a key, if there is one. -/
def readValue : (fuel : Nat) → (block : Bool) → List Token → Parse Nat
  | 0, _, _ => throw .malformed
  | fuel + 1, block, ends => do
    if ← accept .value then readOrEmpty fuel block block ends else addEmpty

/-- Reads the entries of a block mapping. -/
def readEntries : (fuel : Nat) → Parse (List (Nat × Nat))
  | 0 => throw .malformed
  | fuel + 1 => do
    if ← accept .key then
      let key ← readOrEmpty fuel true true [.key, .value, .blockEnd]
      let item ← readValue fuel true [.key, .value, .blockEnd]
      let entries ← readEntries fuel
      return (key, item) :: entries
    else
      require .blockEnd
      return []

/-- Reads the entry of a mapping that is an item of a flow list, behind the
mark of its key. -/
def readOnlyEntry : (fuel : Nat) → Parse (List (Nat × Nat))
  | 0 => throw .malformed
  | fuel + 1 => do
    let key ← readOrEmpty fuel false false [.value, .comma, .flowSequenceEnd]
    let item ← readValue fuel false [.comma, .flowSequenceEnd]
    return [(key, item)]

/-- Reads the items of a flow list, each after the first behind a comma. A key
makes an item a mapping of one entry. -/
def readFlowItems : (fuel : Nat) → (first : Bool) → Parse (List Nat)
  | 0, _ => throw .malformed
  | fuel + 1, first => do
    if ← accept .flowSequenceEnd then return []
    else
      if !first then require .comma
      if ← accept .flowSequenceEnd then return []
      else
        let item ←
          if ← accept .key then collect none none .mapping (.mapping <$> readOnlyEntry fuel)
          else read fuel false false
        let items ← readFlowItems fuel false
        return item :: items

/-- Reads the entries of a flow mapping, each after the first behind a comma. -/
def readFlowEntries : (fuel : Nat) → (first : Bool) → Parse (List (Nat × Nat))
  | 0, _ => throw .malformed
  | fuel + 1, first => do
    if ← accept .flowMappingEnd then return []
    else
      if !first then require .comma
      if ← accept .flowMappingEnd then return []
      else
        let entry ←
          if ← accept .key then do
            let key ← readOrEmpty fuel false false [.value, .comma, .flowMappingEnd]
            let item ← readValue fuel false [.comma, .flowMappingEnd]
            pure (key, item)
          else do
            let key ← read fuel false false
            pure (key, ← addEmpty)
        let entries ← readFlowEntries fuel false
        return entry :: entries

end

/-- The handles that every document knows. -/
def defaultHandles : List (String × String) := [("!", "!"), ("!!", commonTag)]

/-- Reads directives: at most one version, which is a first one, and handles
that differ. -/
def readDirectives : (fuel : Nat) → (versioned : Bool) → (handles : List (String × String)) →
    Parse (List (String × String))
  | 0, _, _ => throw .malformed
  | fuel + 1, versioned, handles => do
    match ← peek with
    | some (.version major) =>
      skip
      if versioned || major ≠ 1 then throw .malformed else readDirectives fuel true handles
    | some (.handle name start) =>
      skip
      if (handles.lookup name).isSome then throw .malformed
      else readDirectives fuel versioned ((name, start) :: handles)
    | some .directive =>
      skip
      readDirectives fuel versioned handles
    | _ => return handles

/-- A mark, a directive or the end, before which there is no node. -/
def endsDocument : Option Token → Bool
  | none | some (.version _) | some (.handle _ _) | some .directive | some .documentStart
  | some .documentEnd => true
  | _ => false

/-- Reads the only node of a document that says where it begins. -/
def readMarked (fuel : Nat) : Parse Nat := do
  let handles ← readDirectives fuel false []
  modify fun source => { source with handles := handles ++ defaultHandles }
  require .documentStart
  if endsDocument (← peek) then addEmpty else read fuel true false

/-- Skips the marks for the end of a document. -/
def skipEnds : (fuel : Nat) → Parse Unit
  | 0 => return ()
  | fuel + 1 => do if ← accept .documentEnd then skipEnds fuel else return ()

/-- Reads the node of the only document of a text. A text without any tokens is
an empty document. -/
def readDocument (fuel : Nat) : Parse Nat := do
  let first ← peek
  let root ←
    if first = none then addEmpty
    else if endsDocument first && first ≠ some .documentEnd then readMarked fuel
    else read fuel true false
  skipEnds fuel
  if (← peek).isSome then
    let _ ← readDirectives fuel false []
    throw .malformed
  else return root

end Parse

/-- The nodes of a document. -/
def Graph.ofTokens (tokens : Tokens) : Attempt Graph := do
  let fuel := 4 * tokens.tokens.length + 4
  let (root, source) ← (Parse.readDocument fuel).run ⟨tokens, Parse.defaultHandles, [], #[], 0⟩
  return ⟨source.nodes, root⟩

end HeaderTypes.Document.Yaml
