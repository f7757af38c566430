import JavaHomes.Pattern.Named

/-!
Patterns as they are written, before flags are taken into account.
-/

namespace JavaHomes.Pattern

/-- A character as it is written. An octet escape, two hexadecimal digits behind `\x`, stands for an
octet where the pattern is not about Unicode. -/
structure Literal where
  char : Char
  isOctet : Bool := false

/-- A flag of a pattern. -/
inductive Flag where
  | caseInsensitive
  | multiLine
  | dotMatchesNewLine
  | swapGreed
  | unicode
  | carriageReturn
  | ignoreWhitespace
  deriving DecidableEq

/-- The flag that a letter stands for. -/
def Flag.ofChar? : Char → Option Flag
  | 'i' => some .caseInsensitive
  | 'm' => some .multiLine
  | 's' => some .dotMatchesNewLine
  | 'U' => some .swapGreed
  | 'u' => some .unicode
  | 'R' => some .carriageReturn
  | 'x' => some .ignoreWhitespace
  | _ => none

/-- Flags with the state that each is put into. -/
abbrev FlagChange := List (Flag × Bool)

/-- The state that a change puts a flag into, if it names the flag. -/
def FlagChange.state? (change : FlagChange) (flag : Flag) : Option Bool :=
  (change.find? fun e => e.1 == flag).map Prod.snd

/-- The places that a pattern can ask for without taking a character. -/
inductive Anchor where
  | lineStart
  | lineEnd
  | textStart
  | textEnd
  | boundary
  | noBoundary
  | wordStart
  | wordEnd
  | wordStartHalf
  | wordEndHalf
  deriving DecidableEq

/-- The operations between sets in brackets. -/
inductive SetOperation where
  | intersection
  | difference
  | symmetricDifference

/-- What stands in brackets. -/
inductive SetTerm where
  | empty
  | literal (l : Literal)
  | range (first last : Literal)
  | ascii (set : CharClass) (negated : Bool)
  | shorthand (kind : Shorthand) (negated : Bool)
  | property (query : PropertyQuery) (negated : Bool)
  | union (a b : SetTerm)
  | bracketed (negated : Bool) (a : SetTerm)
  | operation (kind : SetOperation) (a b : SetTerm)

/-- A pattern as it is written. -/
inductive Term where
  | empty
  | flags (change : FlagChange)
  | literal (l : Literal)
  | dot
  | anchor (kind : Anchor)
  | shorthand (kind : Shorthand) (negated : Bool)
  | property (query : PropertyQuery) (negated : Bool)
  | set (set : SetTerm)
  | repetition (least : Nat) (most : Option Nat) (a : Term)
  | group (change : FlagChange) (a : Term)
  | alternation (a b : Term)
  | sequence (a b : Term)

/-- Something together with the number of levels that it is nested. -/
structure Nested (α : Type) where
  value : α
  depth : Nat := 0

namespace Nested

/-- One level around `a`. -/
def wrap (f : α → β) (a : Nested α) : Nested β :=
  ⟨f a.value, a.depth + 1⟩

/-- The depth of the deepest of some things. -/
def deepest (all : List (Nested α)) : Nat :=
  (all.map Nested.depth).foldl max 0

/-- Things side by side: nothing is `none`, a single thing stands for itself, and several form a
level of their own. -/
def combine (none : α) (pair : α → α → α) (all : List (Nested α)) : Nested α :=
  match all with
  | [] => ⟨none, 0⟩
  | [a] => a
  | a :: rest => ⟨rest.foldl (fun x y => pair x y.value) a.value, deepest all + 1⟩

end Nested

end JavaHomes.Pattern
