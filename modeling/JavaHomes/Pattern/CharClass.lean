import JavaHomes.Text.Blank
import JavaHomes.Unicode.Category
import JavaHomes.Unicode.Fold
import JavaHomes.Unicode.Property
import JavaHomes.Unicode.Script

/-!
Sets of characters as patterns describe them: ranges and named sets, combined as sets are. A
description is kept as it is; membership is decided by evaluating it.
-/

namespace JavaHomes.Pattern

/-- A description of a set of characters. -/
inductive CharClass where
  | none
  | range (first last : Nat)
  | blank
  | word
  | categories (all : List Unicode.Category)
  | script (code : List Char)
  | scriptExtension (code : List Char)
  | points (set : Unicode.CodePoints)
  | union (a b : CharClass)
  | intersection (a b : CharClass)
  | difference (a b : CharClass)
  | symmetricDifference (a b : CharClass)
  | complement (a : CharClass)
  /-- All case variants of the members. -/
  | folded (a : CharClass)
  /-- The members and, for ASCII letters among them, the letter in the other case. -/
  | foldedAscii (a : CharClass)

/-- The categories of marks. -/
def marks : List Unicode.Category :=
  [.nonspacingMark, .spacingMark, .enclosingMark]

/-- The characters that words are made of: letters, marks, decimal digits, connecting punctuation
and the two characters that join or separate the forms of letters. -/
def isWordPoint (c : Nat) : Bool :=
  if c < 0x80 then
    (48 ≤ c && c ≤ 57) || (65 ≤ c && c ≤ 90) || c == 95 || (97 ≤ c && c ≤ 122)
  else
    Unicode.Property.letters.contains c || c == 0x200C || c == 0x200D ||
      (.decimalNumber :: .connectorPunctuation :: marks).contains (Unicode.Category.ofCodePoint c)

/-- The word characters of ASCII. -/
def isAsciiWordPoint (c : Nat) : Bool :=
  c < 0x80 && isWordPoint c

/-- The same ASCII letter in the other case; any other code point is its own partner. -/
def otherCase (c : Nat) : Nat :=
  if 65 ≤ c && c ≤ 90 then c + 32
  else if 97 ≤ c && c ≤ 122 then c - 32
  else c

namespace CharClass

/-- Membership of a code point. -/
def contains : CharClass → Nat → Bool
  | none, _ => false
  | range first last, c => first ≤ c && c ≤ last
  | blank, c => Text.isBlank (Char.ofNat c)
  | word, c => isWordPoint c
  | categories all, c => all.contains (Unicode.Category.ofCodePoint c)
  | script code, c => Unicode.Script.has code c
  | scriptExtension code, c => Unicode.Script.usedWith code c
  | points set, c => set.contains c
  | union a b, c => a.contains c || b.contains c
  | intersection a b, c => a.contains c && b.contains c
  | difference a b, c => a.contains c && !b.contains c
  | symmetricDifference a b, c => a.contains c != b.contains c
  | complement a, c => !a.contains c
  | folded a, c => (Unicode.Fold.variants c).any a.contains
  | foldedAscii a, c => a.contains c || a.contains (otherCase c)

/-- One character. -/
def single (c : Char) : CharClass :=
  range c.toNat c.toNat

/-- All characters. -/
def all : CharClass :=
  complement none

/-- The union of some sets. -/
def unions (sets : List CharClass) : CharClass :=
  sets.foldr union none

/-- How many pieces a search needs for one character of the set: one for a set within ASCII, more
the more places the set is scattered over. -/
def weight : CharClass → Nat
  | none => 1
  | range first last =>
    if last < 0x80 then 1 else if first == last then (if last < 0x800 then 2 else 3) else 4
  | blank => 10
  | word => 1400
  | categories _ => 500
  | script _ => 40
  | scriptExtension _ => 60
  | points set => set.starts.size
  | union a b => a.weight + b.weight
  | intersection a b => max a.weight b.weight
  | difference a b => a.weight + b.weight
  | symmetricDifference a b => a.weight + b.weight
  | complement a => a.weight + 4
  | folded a => 2 * a.weight
  | foldedAscii a => a.weight

end CharClass

end JavaHomes.Pattern
