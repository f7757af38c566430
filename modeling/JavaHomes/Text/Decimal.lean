/-!
Decimal numerals: a run of ASCII digits, read without sign, blanks or separators. Leading zeros are
accepted and count for nothing.
-/

namespace JavaHomes.Text.Decimal

/-- The number that a run of digits denotes. -/
def value (digits : List Char) : Nat :=
  Nat.ofDigitChars 10 digits 0

/-- Reads a numeral; `none` for the empty text and for any text with another character. -/
def read? (s : List Char) : Option Nat :=
  if s.isEmpty || !s.all Char.isDigit then none else some (value s)

/-- Reads a numeral that fits in 32 bits. -/
def readWord? (s : List Char) : Option UInt32 :=
  match read? s with
  | some n => if h : n < UInt32.size then some (UInt32.ofNatLT n h) else none
  | none => none

/-- The least number that does not fit in 64 bits. -/
def wordBound : Nat := 18446744073709551616

/-- Reads a numeral below `2 ^ 64`, which one plus sign may precede. -/
def readSigned64? (s : List Char) : Option Nat :=
  let digits :=
    match s with
    | '+' :: rest => rest
    | _ => s
  (read? digits).filter (· < wordBound)

/-- The numeral of `n`, without leading zeros. -/
def write (n : Nat) : List Char :=
  Nat.toDigits 10 n

end JavaHomes.Text.Decimal
