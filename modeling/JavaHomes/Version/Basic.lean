import JavaHomes.Text.Blank
import JavaHomes.Text.Decimal

/-!
Java versions: three numbers, ordered lexicographically. A version text is a row of numerals with
dots or underscores between them, perhaps with a tag behind it; the old notation `1.8` and the new
one `8` denote the same version.
-/

namespace JavaHomes

/-- A Java language version. -/
structure Version where
  major : UInt32
  minor : UInt32
  patch : UInt32
  deriving DecidableEq, Repr

namespace Version

/-- Lexicographic comparison. -/
def compare (a b : Version) : Ordering :=
  (Ord.compare a.major b.major).then <|
    (Ord.compare a.minor b.minor).then (Ord.compare a.patch b.patch)

instance : Ord Version := ⟨compare⟩

instance : LE Version := ⟨fun a b => (compare a b).isLE⟩

instance : LT Version := ⟨fun a b => compare a b = .lt⟩

instance (a b : Version) : Decidable (a ≤ b) := inferInstanceAs (Decidable (_ = true))

instance (a b : Version) : Decidable (a < b) := inferInstanceAs (Decidable (_ = Ordering.lt))

/-- The three numbers with dots between them. -/
def chars (v : Version) : List Char :=
  Text.Decimal.write v.major.toNat ++ '.' :: Text.Decimal.write v.minor.toNat ++
    '.' :: Text.Decimal.write v.patch.toNat

/-- The text of a version. -/
def text (v : Version) : String :=
  String.ofList v.chars

/-- The characters that may stand between two numerals. -/
def isSeparator (c : Char) : Bool :=
  c == '.' || c == '_'

/-- The characters that a build or release tag starts with. -/
def startsTag (c : Char) : Bool :=
  c == '+' || c == '-' || c == ' '

/-- The numeral part of a version text: without surrounding white space, without double quotes, and
without the tag. -/
def core (s : List Char) : List Char :=
  (Text.trimBy (· == '"') (Text.trim s)).takeWhile fun c => !startsTag c

/-- The values before the first missing one. -/
def known : List (Option α) → List α
  | some a :: rest => a :: known rest
  | _ => []

/-- The numbers of a version text, none of them the `1` of the old notation. The first numeral has
to be readable; the others count up to the first one that is not. -/
def numbers? (s : List Char) : Option (List UInt32) :=
  match (Text.splitBy isSeparator (core s)).map Text.Decimal.readWord? with
  | some first :: others =>
    let rest := known others
    if first = 1 ∧ rest ≠ [] then some rest else some (first :: rest)
  | _ => none

/-- The version of a row of numbers: missing ones are zero, those after the third do not count. -/
def ofNumbers : List UInt32 → Version
  | [] => ⟨0, 0, 0⟩
  | [major] => ⟨major, 0, 0⟩
  | [major, minor] => ⟨major, minor, 0⟩
  | major :: minor :: patch :: _ => ⟨major, minor, patch⟩

/-- Reads a version text. -/
def ofChars? (s : List Char) : Option Version :=
  (numbers? s).map ofNumbers

/-- Reads a version as a launcher reports it. -/
def parse? (s : String) : Option Version :=
  ofChars? s.toList

end Version

end JavaHomes
