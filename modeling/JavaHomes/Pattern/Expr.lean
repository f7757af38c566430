import JavaHomes.Pattern.CharClass

/-!
Search expressions and how they run over a text. An expression either matches at a place without
taking anything (`acceptsEmpty`), or goes on, after one character, as one of finitely many other
expressions (`derivatives`). Both depend on the place, because an expression may look at the
characters around it.
-/

namespace JavaHomes.Pattern

/-- A place in a text, seen through the characters on both sides of it. -/
structure Place where
  before : Option Char
  after : Option Char

/-- The sides of a word that a place can be on. -/
inductive WordEdge where
  | either
  | inside
  | start
  | finish
  | startHalf
  | finishHalf
  deriving DecidableEq

/-- A condition on a place. -/
inductive Look where
  | textStart
  | textEnd
  /-- Behind a line feed; with `returns`, carriage returns end lines as well. -/
  | lineStart (returns : Bool)
  | lineEnd (returns : Bool)
  /-- At the edge of a word, of ASCII letters only if `ascii`. -/
  | word (edge : WordEdge) (ascii : Bool)
  deriving DecidableEq

namespace Look

/-- Whether the character at one side of a place belongs to a word. -/
def inWord (ascii : Bool) (c : Option Char) : Bool :=
  c.any fun c => if ascii then isAsciiWordPoint c.toNat else isWordPoint c.toNat

/-- Whether a place with words on the given sides is the edge that is asked for. -/
def onEdge (before after : Bool) : WordEdge → Bool
  | .either => before != after
  | .inside => before == after
  | .start => !before && after
  | .finish => before && !after
  | .startHalf => !before
  | .finishHalf => !after

/-- Whether a place meets a condition. A carriage return and the line feed behind it are one line
end, with no place between them. -/
def holds (place : Place) : Look → Bool
  | textStart => place.before.isNone
  | textEnd => place.after.isNone
  | lineStart returns =>
    place.before.isNone || place.before == some '\n' ||
      (returns && place.before == some '\r' && place.after != some '\n')
  | lineEnd returns =>
    place.after.isNone || (returns && place.after == some '\r') ||
      (place.after == some '\n' && !(returns && place.before == some '\r'))
  | word edge ascii => onEdge (inWord ascii place.before) (inWord ascii place.after) edge

end Look

/-- A search expression. Sets of characters are numbers into a table of sets. -/
inductive Expr where
  | empty
  | set (index : Nat)
  | look (kind : Look)
  | seq (a b : Expr)
  | alt (a b : Expr)
  | times (a : Expr) (least : Nat) (most : Option Nat)
  deriving DecidableEq

namespace Expr

/-- Whether the expression matches at a place without taking a character. -/
def acceptsEmpty (place : Place) : Expr → Bool
  | empty => true
  | set _ => false
  | look kind => kind.holds place
  | seq a b => a.acceptsEmpty place && b.acceptsEmpty place
  | alt a b => a.acceptsEmpty place || b.acceptsEmpty place
  | times a least _ => least == 0 || a.acceptsEmpty place

/-- `a` and then `b`. -/
def andThen (b : Expr) : Expr → Expr
  | empty => b
  | a => seq a b

/-- What may be left to match after the character `c`, which stands behind the place. Where a
repeated expression matches without taking anything, no repetition is owed any more. -/
def derivatives (sets : Array CharClass) (place : Place) (c : Char) : Expr → List Expr
  | empty => []
  | look _ => []
  | set index => if sets[index]?.any (·.contains c.toNat) then [empty] else []
  | seq a b =>
    (a.derivatives sets place c).map (andThen b) ++
      if a.acceptsEmpty place then b.derivatives sets place c else []
  | alt a b => a.derivatives sets place c ++ b.derivatives sets place c
  | times a least most =>
    if most == some 0 then []
    else
      let owed := if a.acceptsEmpty place then 0 else least - 1
      (a.derivatives sets place c).map (andThen (times a owed (most.map (· - 1))))

/-- The number of pieces of the expression when every repetition is written out. -/
def weight (sets : Array CharClass) : Expr → Nat
  | empty | look _ => 1
  | set index => (sets[index]?.map CharClass.weight).getD 1
  | seq a b => a.weight sets + b.weight sets
  | alt a b => a.weight sets + b.weight sets + 1
  | times a least most => (a.weight sets + 1) * max 1 (most.getD (least + 1))

/-- Whether one of the expressions `live`, or `start` from here on, matches somewhere in the rest of
a text. -/
def search (sets : Array CharClass) (start : Expr) (before : Option Char) (live : List Expr) :
    List Char → Bool
  | [] => (start :: live).any (acceptsEmpty ⟨before, none⟩)
  | c :: s =>
    let place : Place := ⟨before, some c⟩
    let all := start :: live
    all.any (acceptsEmpty place) ||
      search sets start (some c) (all.flatMap (derivatives sets place c)).eraseDups s

/-- Whether the expression matches somewhere in a text. -/
def matchesIn (sets : Array CharClass) (e : Expr) (s : List Char) : Bool :=
  e.search sets none [] s

end Expr

end JavaHomes.Pattern
