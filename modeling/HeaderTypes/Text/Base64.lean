namespace HeaderTypes.Text

/-- The six bits that a character stands for. -/
def sixBits? (c : Char) : Option Nat :=
  if 'A' ≤ c && c ≤ 'Z' then some (c.toNat - 'A'.toNat)
  else if 'a' ≤ c && c ≤ 'z' then some (c.toNat - 'a'.toNat + 26)
  else if '0' ≤ c && c ≤ '9' then some (c.toNat - '0'.toNat + 52)
  else if c = '+' then some 62
  else if c = '/' then some 63
  else none

/-- What has been read of a group of four characters: how many of them, the
bits that are not yet part of a byte, and how many signs follow that fill up
the group. -/
structure Sextets where
  count : Nat := 0
  bits : Nat := 0
  filled : Nat := 0

/-- Reads the bytes of a text. Equals signs fill up the last group, which may
not end with its first character. Characters that stand for nothing do not count. -/
def readBase64 (group : Sextets) : List Char → Option (List UInt8)
  | [] => if group.count = 0 then some [] else none
  | '=' :: s =>
    if group.count < 2 then readBase64 group s
    else if 4 ≤ group.count + group.filled + 1 then some []
    else readBase64 { group with filled := group.filled + 1 } s
  | c :: s =>
    match sixBits? c with
    | none => readBase64 group s
    | some six =>
      let all := group.bits * 64 + six
      match group.count with
      | 0 => readBase64 ⟨1, six, 0⟩ s
      | 1 => (readBase64 ⟨2, all % 16, 0⟩ s).map (UInt8.ofNat (all / 16) :: ·)
      | 2 => (readBase64 ⟨3, all % 4, 0⟩ s).map (UInt8.ofNat (all / 4) :: ·)
      | _ => (readBase64 {} s).map (UInt8.ofNat all :: ·)

/-- The bytes that a text of ASCII stands for. -/
def decodeBase64 (s : List Char) : Option (List UInt8) :=
  if s.all fun c => c.toNat < 0x80 then readBase64 {} s else none

end HeaderTypes.Text
