import JavaHomes.Pattern.Meaning
import JavaHomes.Pattern.Parser

/-!
Search patterns: regular expressions over characters, without look-around and references. A pattern
says whether it occurs somewhere in a text.
-/

namespace JavaHomes

/-- A pattern that is ready for searching. -/
structure Pattern where
  sets : Array Pattern.CharClass
  expr : Pattern.Expr

namespace Pattern

/-- The number of pieces that a pattern may have with its repetitions written out. -/
def sizeLimit : Nat := 327680

/-- Makes a pattern ready; `none` when it is not well formed or too large. -/
def ofString? (s : String) : Option Pattern := do
  let term ← Term.ofChars? s.toList
  let (expr, context) ← term.meaning? {}
  if sizeLimit < expr.weight context.sets then none
  else return ⟨context.sets, expr⟩

/-- Whether the pattern occurs in a text. -/
def occursIn (p : Pattern) (s : String) : Bool :=
  p.expr.matchesIn p.sets s.toList

end Pattern

end JavaHomes
