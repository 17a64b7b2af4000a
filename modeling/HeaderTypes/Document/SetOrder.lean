import HeaderTypes.Document.Part

namespace HeaderTypes.Document

/-- The prime number by which the hashes of numbers are taken. -/
def hashPrime : Nat := Nat.pow 2 61 - 1

/-- A hash of 64 bits from the residue of a number without its sign. Below zero
it is counted from the end of the words, the last of which is no hash. -/
def signedHash (negative : Bool) (residue : Nat) : Nat :=
  if negative && residue ≠ 0 then Nat.pow 2 64 - (if residue = 1 then 2 else residue) else residue

/-- The hash of a double, the same as that of an equal whole number. Two has
order 61 by the prime, so its powers may be taken by their residues. -/
def floatHash? (x : Float) : Option Nat :=
  let bits := x.toBits.toNat
  let magnitude := bits % (2048 * Decimal.hiddenBit)
  let negative := bits / (2048 * Decimal.hiddenBit) = 1
  if magnitude / Decimal.hiddenBit = 2047 then
    if magnitude % Decimal.hiddenBit = 0 then some (signedHash negative 314159) else none
  else if magnitude = 0 then some 0
  else
    let b := Decimal.Binary.ofBits magnitude
    let power := Nat.pow 2 (b.exponent % 61).toNat
    some (signedHash negative (b.mantissa * power % hashPrime))

/-- The hash of a member of a set, if it is the same in every run. -/
def Atom.hash? : Atom → Option Nat
  | .scalar (.bool value) => some (if value then 1 else 0)
  | .scalar (.int value) => some (signedHash (value < 0) (value.natAbs % hashPrime))
  | .scalar (.float value) => floatHash? value
  | _ => none

namespace SetOrder

/-- How many slots behind the first one are tried before the next jump. -/
def neighbours : Nat := 9

/-- The slots that are tried one after the other for a hash in a table of
`size` slots, a power of two. The hash itself steers the first jumps. -/
def slots (size : Nat) : (jumps : Nat) → (slot rest : Nat) → List Nat
  | 0, _, _ => []
  | jumps + 1, slot, rest =>
    let tried := if slot + neighbours < size then neighbours + 1 else 1
    let rest := rest / 32
    (List.range tried).map (slot + ·) ++ slots size jumps ((5 * slot + 1 + rest) % size) rest

/-- Puts a member into the first slot for its hash that is empty. When the hash
is used up, the jumps come to all slots. -/
def place (table : Array (Option Atom)) (member : Atom × Nat) : Array (Option Atom) :=
  let size := table.size
  let tried := slots size (size + 14) (member.2 % size) member.2
  match tried.find? fun slot => (table[slot]?.join).isNone with
  | some slot => table.setIfInBounds slot (some member.1)
  | none => table

/-- The size of a table: eight slots for up to four members, and for more the
least power of two that is greater than twice their number. -/
def tableSize (count : Nat) : Nat := if count < 5 then 8 else Nat.pow 2 ((2 * count).log2 + 1)

end SetOrder

/-- The members of a set in the order in which they are shown, which is that of
a table by their hashes. Members without a lasting hash stay in the order in
which they are written. -/
def setOrder (members : List Atom) : List Atom :=
  match members.mapM fun member => member.hash?.map (member, ·) with
  | none => members
  | some hashed =>
    let empty : Array (Option Atom) := Array.replicate (SetOrder.tableSize members.length) none
    (hashed.foldl SetOrder.place empty).toList.filterMap id

end HeaderTypes.Document
