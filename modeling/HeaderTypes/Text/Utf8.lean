import HeaderTypes.Text.Hex

namespace HeaderTypes.Text

/-- What keeps bytes from being UTF-8. -/
inductive Utf8Fault.Cause
  /-- No character begins with this byte. -/
  | invalidStart
  /-- A byte inside a character is none that may stand there. -/
  | invalidContinuation
  /-- The bytes end inside a character. -/
  | unexpectedEnd
  deriving DecidableEq, Repr

/-- The bytes from `start` up to `stop`, the first of them `byte`, are no part
of a UTF-8 text. -/
structure Utf8Fault where
  cause : Utf8Fault.Cause
  byte : UInt8
  start : Nat
  stop : Nat
  deriving DecidableEq, Repr

def Utf8Fault.Cause.message : Utf8Fault.Cause → String
  | .invalidStart => "invalid start byte"
  | .invalidContinuation => "invalid continuation byte"
  | .unexpectedEnd => "unexpected end of data"

/-- A single byte is shown, of several only the positions. -/
def Utf8Fault.message (fault : Utf8Fault) : String :=
  let place :=
    if fault.stop = fault.start + 1 then
      s!"byte 0x{String.ofList (hex 2 fault.byte.toNat)} in position {fault.start}"
    else s!"bytes in position {fault.start}-{fault.stop - 1}"
  "'utf-8' codec can't decode " ++ place ++ ": " ++ fault.cause.message

/-- What a first byte promises: how many bytes follow, its own part of the code
point, and the least and the greatest that the next byte may be. -/
structure Utf8Lead where
  tails : Nat
  value : Nat
  least : Nat
  greatest : Nat

/-- The first bytes of UTF-8. The narrower ranges for the next byte rule out
surrogates, code points past the last one, and spellings longer than needed. -/
def Utf8Lead.ofByte? (b : Nat) : Option Utf8Lead :=
  if b < 0x80 then some ⟨0, b, 0, 0⟩
  else if b < 0xC2 then none
  else if b < 0xE0 then some ⟨1, b - 0xC0, 0x80, 0xBF⟩
  else if b = 0xE0 then some ⟨2, 0, 0xA0, 0xBF⟩
  else if b = 0xED then some ⟨2, 0xD, 0x80, 0x9F⟩
  else if b < 0xF0 then some ⟨2, b - 0xE0, 0x80, 0xBF⟩
  else if b = 0xF0 then some ⟨3, 0, 0x90, 0xBF⟩
  else if b < 0xF4 then some ⟨3, b - 0xF0, 0x80, 0xBF⟩
  else if b = 0xF4 then some ⟨3, 4, 0x80, 0x8F⟩
  else none

/-- The end of reading the bytes after a first one: the code point, or the
cause of a fault with the number of bytes that were in order. -/
abbrev Utf8Tails := Except (Utf8Fault.Cause × Nat) Nat

/-- Reads `count` more bytes, the next one between `least` and `greatest`. -/
def readTails : (count least greatest value : Nat) → List UInt8 → Utf8Tails
  | 0, _, _, value, _ => .ok value
  | _ + 1, _, _, _, [] => .error (.unexpectedEnd, 0)
  | count + 1, least, greatest, value, b :: bytes =>
    if least ≤ b.toNat ∧ b.toNat ≤ greatest then
      match readTails count 0x80 0xBF (64 * value + (b.toNat - 0x80)) bytes with
      | .ok value => .ok value
      | .error (cause, inOrder) => .error (cause, inOrder + 1)
    else .error (.invalidContinuation, 0)

/-- The characters of UTF-8 bytes that stand from `position` on. -/
def decodeFrom (position : Nat) : List UInt8 → Except Utf8Fault (List Char)
  | [] => .ok []
  | b :: bytes =>
    match Utf8Lead.ofByte? b.toNat with
    | none => .error ⟨.invalidStart, b, position, position + 1⟩
    | some lead =>
      match readTails lead.tails lead.least lead.greatest lead.value bytes with
      | .error (cause, inOrder) => .error ⟨cause, b, position, position + inOrder + 1⟩
      | .ok value => do
        have : (bytes.drop lead.tails).length < (b :: bytes).length := by
          simp only [List.length_drop, List.length_cons]; omega
        let rest ← decodeFrom (position + lead.tails + 1) (bytes.drop lead.tails)
        return Char.ofNat value :: rest
termination_by bytes => bytes.length

/-- The text that UTF-8 bytes spell. A byte order mark stays as U+FEFF. -/
def decodeUtf8 (bytes : List UInt8) : Except Utf8Fault (List Char) := decodeFrom 0 bytes

/-- Line ends as single newlines, whether written as newline, carriage return or both. -/
def unifyNewlines : List Char → List Char
  | [] => []
  | '\r' :: '\n' :: s => '\n' :: unifyNewlines s
  | '\r' :: s => '\n' :: unifyNewlines s
  | c :: s => c :: unifyNewlines s

end HeaderTypes.Text
