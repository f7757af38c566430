/-!
UTF-8. `decode?` reads well-formed octets only; `decodeLossy` reads any octets and puts one
replacement character for each longest piece that no well-formed character starts with.
-/

namespace JavaHomes.Text.Utf8

/-- What a first octet announces: the number of octets that follow, the range of the next one, and
the bits that the first octet contributes. -/
structure Lead where
  more : Nat
  low : UInt8
  high : UInt8
  bits : Nat

/-- The announcement of `b`; `none` when no character starts with `b`. The narrowed ranges exclude
overlong forms, surrogates and numbers above the last code point. -/
def lead? (b : UInt8) : Option Lead :=
  if b < 0x80 then some ⟨0, 0x80, 0xBF, b.toNat⟩
  else if b < 0xC2 then none
  else if b < 0xE0 then some ⟨1, 0x80, 0xBF, b.toNat - 0xC0⟩
  else if b == 0xE0 then some ⟨2, 0xA0, 0xBF, 0⟩
  else if b == 0xED then some ⟨2, 0x80, 0x9F, 0xD⟩
  else if b < 0xF0 then some ⟨2, 0x80, 0xBF, b.toNat - 0xE0⟩
  else if b == 0xF0 then some ⟨3, 0x90, 0xBF, 0⟩
  else if b < 0xF4 then some ⟨3, 0x80, 0xBF, b.toNat - 0xF0⟩
  else if b == 0xF4 then some ⟨3, 0x80, 0x8F, 4⟩
  else none

/-- Reads `more` continuation octets onto `bits`. On an octet out of range the character is given
up and that octet is left for the next one. -/
def continuation : (more : Nat) → (low high : UInt8) → (bits : Nat) → List UInt8 →
    Option Char × List UInt8
  | 0, _, _, bits, s => (some (Char.ofNat bits), s)
  | _ + 1, _, _, _, [] => (none, [])
  | more + 1, low, high, bits, b :: s =>
    if low ≤ b && b ≤ high then continuation more 0x80 0xBF (bits * 64 + (b.toNat - 0x80)) s
    else (none, b :: s)

theorem continuation_length (more : Nat) (low high : UInt8) (bits : Nat) (s : List UInt8) :
    (continuation more low high bits s).2.length ≤ s.length := by
  induction more generalizing low high bits s with
  | zero => simp [continuation]
  | succ more ih =>
    cases s with
    | nil => simp [continuation]
    | cons b s =>
      simp only [continuation]
      split
      · exact Nat.le_trans (ih ..) (Nat.le_succ _)
      · exact Nat.le_refl _

/-- The first character of `b :: s`, or `none` for an ill-formed piece, and what is left. -/
def next (b : UInt8) (s : List UInt8) : Option Char × List UInt8 :=
  match lead? b with
  | some l => continuation l.more l.low l.high l.bits s
  | none => (none, s)

theorem next_length (b : UInt8) (s : List UInt8) : (next b s).2.length ≤ s.length := by
  unfold next
  split
  · exact continuation_length ..
  · exact Nat.le_refl _

/-- The characters of `s`, with `none` for each ill-formed piece. -/
def pieces : List UInt8 → List (Option Char)
  | [] => []
  | b :: s => (next b s).1 :: pieces (next b s).2
termination_by s => s.length
decreasing_by exact Nat.lt_succ_of_le (next_length b s)

/-- Reads octets that may be ill-formed, each ill-formed piece as U+FFFD. -/
def decodeLossy (s : List UInt8) : List Char :=
  (pieces s).map fun c => c.getD '\ufffd'

/-- Reads well-formed octets. -/
def decode? (s : List UInt8) : Option (List Char) :=
  (pieces s).mapM id

/-- The octets of a text. -/
def encode (s : String) : List UInt8 :=
  s.toUTF8.data.toList

end JavaHomes.Text.Utf8
