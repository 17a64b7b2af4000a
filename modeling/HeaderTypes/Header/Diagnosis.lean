import HeaderTypes.Document.Value

namespace HeaderTypes

/-- A part of a parsed text with the parts in it. A part may be text that fits
nowhere, or stand for text that is missing. -/
inductive SyntaxNode
  | node (isError isMissing : Bool) (children : List SyntaxNode)
  deriving Inhabited

namespace SyntaxNode

/-- A text in which every part is in its place. -/
def clean : SyntaxNode := node false false []

def children : SyntaxNode → List SyntaxNode
  | node _ _ children => children

/-- A part is a fault in either way or in both. -/
def isFault : SyntaxNode → Bool
  | node isError isMissing _ => isError || isMissing

variable (property : SyntaxNode → Bool)

mutual

/-- The number of parts with a property, the whole counted too. -/
def countP : SyntaxNode → Nat
  | node isError isMissing children =>
    (if property (node isError isMissing children) then 1 else 0) + countPIn children

/-- The number of parts with a property in those of a list. -/
def countPIn : List SyntaxNode → Nat
  | [] => 0
  | first :: rest => countP first + countPIn rest

end

theorem countP_eq (part : SyntaxNode) :
    part.countP property = (if property part then 1 else 0) + countPIn property part.children := by
  cases part
  rw [countP, children]

theorem countPIn_append (a b : List SyntaxNode) :
    countPIn property (a ++ b) = countPIn property a + countPIn property b := by
  induction a with
  | nil => rw [List.nil_append, countPIn, Nat.zero_add]
  | cons first rest ih => rw [List.cons_append, countPIn, countPIn, ih, Nat.add_assoc]

theorem countPIn_reverse (parts : List SyntaxNode) :
    countPIn property parts.reverse = countPIn property parts := by
  induction parts with
  | nil => rfl
  | cons first rest ih =>
    rw [List.reverse_cons, countPIn_append, ih, countPIn, countPIn, countPIn, Nat.add_zero,
      Nat.add_comm]

end SyntaxNode

/-- A count of faults that is under way: how many were met, and the parts that
are still to be looked at, the next one first. -/
structure FaultCount where
  met : Nat
  pending : List SyntaxNode

namespace FaultCount
open SyntaxNode (countP_eq countPIn countPIn_append countPIn_reverse)

def start (root : SyntaxNode) : FaultCount := ⟨0, [root]⟩

/-- Looks at the next part. Its children come before all others, the last one first. -/
def next : FaultCount → FaultCount
  | ⟨met, []⟩ => ⟨met, []⟩
  | ⟨met, part :: pending⟩ =>
    ⟨if part.isFault then met + 1 else met, part.children.reverse ++ pending⟩

/-- A round takes one part away and leaves all that are in it. -/
theorem countPIn_next (property : SyntaxNode → Bool) (met : Nat) (part : SyntaxNode)
    (pending : List SyntaxNode) :
    (if property part then 1 else 0) + countPIn property (next ⟨met, part :: pending⟩).pending =
      countPIn property (part :: pending) := by
  rw [next, countPIn_append, countPIn_reverse, countPIn, countP_eq, Nat.add_assoc]

/-- The number of rounds to come: that of the pending parts and all that are in them. -/
def remaining (count : FaultCount) : Nat := countPIn (fun _ => true) count.pending

theorem remaining_next (count : FaultCount) : count.next.remaining = count.remaining - 1 := by
  obtain ⟨met, pending⟩ := count
  cases pending with
  | nil => rfl
  | cons part pending => exact Nat.eq_sub_of_add_eq' (countPIn_next (fun _ => true) met part pending)

theorem remaining_eq_zero_iff {count : FaultCount} : count.remaining = 0 ↔ count.pending = [] := by
  obtain ⟨met, pending⟩ := count
  cases pending with
  | nil => exact iff_of_true rfl rfl
  | cons part pending => simp [remaining, countPIn, countP_eq]

/-- Looks at parts until none is left, and says how many faults were met. -/
def finish : FaultCount → Nat
  | ⟨met, []⟩ => met
  | ⟨met, part :: pending⟩ => finish (next ⟨met, part :: pending⟩)
termination_by count => count.remaining
decreasing_by
  rw [remaining_next]
  exact Nat.sub_one_lt (mt remaining_eq_zero_iff.mp (List.cons_ne_nil part pending))

end FaultCount

/-- The number of faults in a text, counted part by part. -/
def SyntaxNode.faults (root : SyntaxNode) : Nat := (FaultCount.start root).finish

/-- A parsed text, and whether its parser flags a fault in it. -/
structure SyntaxTree where
  root : SyntaxNode
  flagged : Bool

/-- Turns texts into their parts. -/
abbrev Grammar := String → SyntaxTree

/-- The grammar that finds nothing wrong with a text. -/
def Grammar.trusting : Grammar := fun _ => ⟨.clean, false⟩

/-- The number of faults in a text. Only a text that is flagged is gone through. -/
def Grammar.errorCount (grammar : Grammar) (text : String) : Nat :=
  let tree := grammar text
  if tree.flagged then tree.root.faults else 0

/-- Something that is no text cannot be parsed. -/
structure NotText where
  type : String
  deriving DecidableEq, Repr

def NotText.message (fault : NotText) : String := s!"Source must be str, got {fault.type}"

/-- `errorCount` of a value that should be a text. -/
def Grammar.errorCountOf (grammar : Grammar) : Document.Value → Except NotText Nat
  | .text text => .ok (grammar.errorCount text)
  | value => .error ⟨value.typeName⟩

/-- Where the numbers of syntax errors in headers come from. -/
inductive SyntaxCheck
  | off
  | grammar (grammar : Grammar)
  /-- The numbers for the headers to come. Later headers have no errors. -/
  | counted (counts : List Nat)

end HeaderTypes
