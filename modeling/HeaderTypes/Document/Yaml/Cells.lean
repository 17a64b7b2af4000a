import HeaderTypes.Document.SetOrder
import HeaderTypes.Document.Yaml.Atom
import HeaderTypes.Document.Yaml.Node

namespace HeaderTypes.Document.Yaml

/-- A document whose nodes are being given their cells: the nodes, as mappings
take over entries of others on the way, how many entries there were before, the
cells of those that have one, behind them cells without a node, and the
collections whose cells are still empty, the last one first. -/
structure Draft where
  nodes : Array Node
  entryCount : Nat
  cells : Array (Option Cell)
  waiting : List Nat

abbrev Drafting := StateT Draft Attempt

namespace Drafting

def node (place : Nat) : Drafting Node := do
  match (← get).nodes[place]? with
  | some node => return node
  | none => throw .malformed

def setCell (place : Nat) (cell : Cell) : Drafting Unit :=
  modify fun draft => { draft with cells := draft.cells.setIfInBounds place (some cell) }

/-- Adds a cell that belongs to no node. -/
def addCell (cell : Cell) : Drafting Nat :=
  modifyGet fun draft =>
    (draft.cells.size, { draft with cells := draft.cells.push (some cell) })

/-- Gives a collection an empty cell, to be filled later. -/
def postpone (place : Nat) (cell : Cell) : Drafting Unit := do
  setCell place cell
  modify fun draft => { draft with waiting := place :: draft.waiting }

/-- The text of a node. A mapping has that of its default value, which may be a
mapping again. -/
def textOf : (fuel : Nat) → (place : Nat) → Drafting (List Nat)
  | 0, _ => throw .depth
  | fuel + 1, place => do
    match (← node place).content with
    | .scalar points => return points
    | .sequence _ => throw .malformed
    | .mapping entries =>
      match ← entries.findM? fun (key, _) => return (← node key).kind = .default with
      | some (_, value) => textOf fuel value
      | none => throw .malformed

/-- The value of a node that is no collection. -/
def atomOf (kind : Kind) (place : Nat) : Drafting Atom := do
  match kind with
  | .other | .merge | .default => throw .malformed
  | _ =>
    let points ← textOf ((← get).nodes.size + 1) place
    match kind, (← node place).content with
    | .timestamp, .mapping _ => throw .mappedTimestamp
    | _, _ => kind.atom place points

/-- Gives a node its cell, unless it has one. -/
def begin (place : Nat) : Drafting Unit := do
  if ((← get).cells[place]?.join).isNone then
    match (← node place).kind with
    | .sequence | .ordered | .pairs => postpone place (.list [])
    | .mapping => postpone place (.map [])
    | .set => postpone place (.set [])
    | kind => setCell place (.atom (← atomOf kind place))

/-- The entries of a mapping. -/
def entriesOf (place : Nat) : Drafting (List (Nat × Nat)) := do
  match (← node place).content with
  | .mapping entries => return entries
  | _ => throw .malformed

def setEntries (place : Nat) (entries : List (Nat × Nat)) : Drafting Unit := do
  let node ← node place
  modify fun draft => { draft with
    nodes := draft.nodes.setIfInBounds place { node with content := .mapping entries } }

def hasKind (kind : Kind) (place : Nat) : Drafting Bool := return (← node place).kind = kind

/-- Takes the first entry that takes over others out of a mapping: the place of
what it takes them from. -/
def takeMerge? (place : Nat) : Drafting (Option Nat) := do
  let entries ← entriesOf place
  match ← entries.findM? fun (key, _) => hasKind .merge key with
  | none => return none
  | some entry =>
    setEntries place (entries.erase entry)
    return some entry.2

/-- In a mapping that has taken over what it should, an equals sign stands for itself. -/
def settleKey (place : Nat) : Drafting Unit := do
  let node ← node place
  if node.kind = .default then
    modify fun draft => { draft with
      nodes := draft.nodes.setIfInBounds place { node with kind := .text } }

mutual

/-- Adds what the mapping at a place takes over to entries that are taken over
already. Every step takes an entry that takes over others out of a mapping, and
none is ever put back, so the number of entries bounds the fuel. -/
def gather : (fuel : Nat) → (place : Nat) → (taken : List (Nat × Nat)) →
    Drafting (List (Nat × Nat))
  | 0, _, taken => return taken
  | fuel + 1, place, taken => do
    match ← takeMerge? place with
    | none => return taken
    | some source =>
      match (← node source).content with
      | .mapping _ => gather fuel place (taken ++ (← flatten fuel source))
      | .sequence items =>
        let sources ← items.mapM (flatten fuel)
        gather fuel place (taken ++ sources.reverse.flatten)
      | .scalar _ => throw .malformed
termination_by fuel => (fuel, 0)

/-- Puts what a mapping takes over in front of its own entries, and gives all of them. -/
def flatten (fuel place : Nat) : Drafting (List (Nat × Nat)) := do
  let _ ← entriesOf place
  let taken ← gather fuel place []
  let entries := taken ++ (← entriesOf place)
  entries.forM fun (key, _) => settleKey key
  setEntries place entries
  return entries
termination_by (fuel, 1)

end

/-- The value of a node as the key of a mapping. A collection is none. -/
def keyOf (place : Nat) : Drafting Atom := do
  begin place
  match (← get).cells[place]?.join with
  | some (.atom value) => return value
  | _ => throw .malformed

/-- Gives a key its value: at the place of the key if the map has it, else at the end. -/
def putEntry (key : Atom) (value : Nat) : List (Atom × Nat) → List (Atom × Nat)
  | [] => [(key, value)]
  | entry :: entries =>
    if entry.1.sameKey key then (entry.1, value) :: entries
    else entry :: putEntry key value entries

/-- The entries of a mapping with their keys as values. A later entry replaces
an earlier one. -/
def readEntries (place : Nat) : Drafting (List (Atom × Nat)) := do
  let entries ← flatten ((← get).entryCount + 1) place
  entries.foldlM (fun read (key, value) => do
    let name ← keyOf key
    begin value
    return putEntry name value read) []

/-- The entries of a list of mappings, each of which has one. -/
def readPairs (place : Nat) : Drafting (List Nat) := do
  match (← node place).content with
  | .sequence items =>
    items.mapM fun item => do
      match ← entriesOf item with
      | [(key, value)] =>
        begin key
        begin value
        addCell (.pair key value)
      | _ => throw .malformed
  | _ => throw .malformed

/-- Fills the cell of a collection. -/
def fill (place : Nat) : Drafting Unit := do
  let node ← node place
  match node.kind, node.content with
  | .sequence, .sequence items =>
    items.forM begin
    setCell place (.list items)
  | .mapping, _ => setCell place (.map (← readEntries place))
  | .set, _ => setCell place (.set (setOrder ((← readEntries place).map (·.1))))
  | .ordered, _ | .pairs, _ => setCell place (.list (← readPairs place))
  | _, _ => throw .malformed

/-- Fills the cells of collections level by level. A collection is filled once,
so the number of nodes bounds the fuel. -/
def fillAll : (fuel : Nat) → Drafting Unit
  | 0 => return ()
  | fuel + 1 => do
    let level := (← get).waiting.reverse
    if !level.isEmpty then
      modify fun draft => { draft with waiting := [] }
      level.forM fill
      fillAll fuel

end Drafting

/-- The number of entries of a mapping. -/
def Node.entryCount (node : Node) : Nat :=
  match node.content with
  | .mapping entries => entries.length
  | _ => 0

/-- The document that nodes describe. -/
def Graph.part (graph : Graph) : Attempt Part := do
  let entryCount := (graph.nodes.toList.map Node.entryCount).foldl (· + ·) 0
  let draft : Draft := ⟨graph.nodes, entryCount, graph.nodes.map fun _ => none, []⟩
  let build : Drafting Unit := do
    Drafting.begin graph.root
    Drafting.fillAll (graph.nodes.size + 1)
  let (_, draft) ← build.run draft
  return ⟨draft.cells.map (·.getD (.list [])), graph.root⟩

end HeaderTypes.Document.Yaml
