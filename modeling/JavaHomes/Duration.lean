import JavaHomes.Text.Decimal

/-!
Spans of time. A span is written in the largest unit of which it has at least one, with as many
decimal places as it needs.
-/

namespace JavaHomes

/-- A span of time as a number of nanoseconds. -/
structure Duration where
  nanos : Nat
  deriving DecidableEq, Repr

namespace Duration

/-- A span of whole milliseconds. -/
def ofMillis (n : Nat) : Duration :=
  ⟨n * 1000000⟩

/-- A span of seconds and nanoseconds. -/
def ofParts (seconds nanos : Nat) : Duration :=
  ⟨seconds * 1000000000 + nanos⟩

/-- The decimal places of `part / 10 ^ places`, without trailing zeros. -/
def decimals (part places : Nat) : List Char :=
  let digits := Text.Decimal.write part
  let all := List.replicate (places - digits.length) '0' ++ digits
  (all.reverse.dropWhile (· == '0')).reverse

/-- `n / 10 ^ places` in decimal notation. -/
def scaled (n places : Nat) : List Char :=
  let whole := Text.Decimal.write (n / Nat.pow 10 places)
  let part := n % Nat.pow 10 places
  if part = 0 then whole else whole ++ '.' :: decimals part places

/-- The text of a span. -/
def text (d : Duration) : String :=
  if 1000000000 ≤ d.nanos then String.ofList (scaled d.nanos 9) ++ "s"
  else if 1000000 ≤ d.nanos then String.ofList (scaled d.nanos 6) ++ "ms"
  else if 1000 ≤ d.nanos then String.ofList (scaled d.nanos 3) ++ "µs"
  else String.ofList (scaled d.nanos 0) ++ "ns"

end Duration

end JavaHomes
