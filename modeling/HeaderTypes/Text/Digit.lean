import HeaderTypes.Text.DigitTable

namespace HeaderTypes.Text

/-- The value of a decimal digit of any script. -/
def digitValue? (c : Char) : Option Nat :=
  if c.toNat < 128 then if c.isDigit then some (c.toNat - '0'.toNat) else none
  else
    (zeros.find? fun first => first ≤ c.toNat && c.toNat < first + 10).map (c.toNat - ·)

def isDigit (c : Char) : Bool := (digitValue? c).isSome

/-- The digits of a number, zeros in front of them up to a width. -/
def padded (width n : Nat) : String :=
  let digits := Nat.toDigits 10 n
  String.ofList (List.replicate (width - digits.length) '0' ++ digits)

/-- The digits of ASCII are digits. -/
theorem isDigit_of_ascii {c : Char} (digit : c.isDigit = true) : isDigit c = true := by
  have least : c.toNat < 128 := by
    simp only [Char.isDigit, Bool.and_eq_true, decide_eq_true_eq] at digit
    have := digit.2
    exact Nat.lt_of_le_of_lt (show c.toNat ≤ 57 from this) (by decide)
  simp [isDigit, digitValue?, least, digit]

end HeaderTypes.Text
