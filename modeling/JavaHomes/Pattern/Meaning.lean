import JavaHomes.Pattern.Expr
import JavaHomes.Pattern.Term

/-!
The meaning of a pattern: the search expression that it stands for once all flags have been taken
into account. A flag counts from where it is set to the end of the group around it, later
alternatives included.
-/

namespace JavaHomes.Pattern

/-- The flags that are on. -/
abbrev Flags := Flag → Bool

/-- A pattern starts out with Unicode and nothing else. -/
def Flags.initial : Flags :=
  fun flag => flag == .unicode

/-- The flags after a change. -/
def Flags.apply (flags : Flags) (change : FlagChange) : Flags :=
  fun flag => (change.state? flag).getD (flags flag)

/-! ### Sets -/

/-- The code point that a character of a set stands for. Outside Unicode only ASCII is left. -/
def Literal.point? (flags : Flags) (l : Literal) : Option Nat :=
  if flags .unicode || l.char.toNat < 0x80 then some l.char.toNat else none

/-- A set with all case variants, if case does not count. -/
def caseVariants (flags : Flags) (set : CharClass) : CharClass :=
  if !flags .caseInsensitive then set
  else if flags .unicode then .folded set
  else .foldedAscii set

/-- A set, or what is not in it. Outside Unicode the rest of a set is not made of characters. -/
def orRest? (flags : Flags) (negated : Bool) (set : CharClass) : Option CharClass :=
  if !negated then some set
  else if flags .unicode then some (.complement set)
  else none

/-- The set of a shorthand. -/
def Shorthand.meaning? (flags : Flags) (kind : Shorthand) (negated : Bool) : Option CharClass :=
  orRest? flags negated (if flags .unicode then kind.set else kind.asciiSet)

/-- The set of a property, which only Unicode has. -/
def PropertyQuery.meaning? (flags : Flags) (query : PropertyQuery) (negated : Bool) :
    Option CharClass :=
  if flags .unicode then
    query.set?.bind fun set => orRest? flags negated (caseVariants flags set)
  else none

/-- The set that two sets form under an operation. -/
def SetOperation.apply : SetOperation → CharClass → CharClass → CharClass
  | .intersection => .intersection
  | .difference => .difference
  | .symmetricDifference => .symmetricDifference

/-- The set that a description in brackets stands for. -/
def SetTerm.meaning? (flags : Flags) : SetTerm → Option CharClass
  | .empty => some .none
  | .literal l => (l.point? flags).map fun c => .range c c
  | .range first last => do
    let first ← first.point? flags
    let last ← last.point? flags
    return .range first last
  | .ascii set negated => orRest? flags negated (caseVariants flags set)
  | .shorthand kind negated => kind.meaning? flags negated
  | .property query negated => query.meaning? flags negated
  | .union a b => do
    let a ← a.meaning? flags
    let b ← b.meaning? flags
    return .union a b
  | .bracketed negated a => do
    let a ← a.meaning? flags
    orRest? flags negated (caseVariants flags a)
  | .operation kind a b => do
    let a ← a.meaning? flags
    let b ← b.meaning? flags
    return kind.apply (caseVariants flags a) (caseVariants flags b)

/-! ### Single characters and places -/

/-- The set of a character on its own. -/
def Literal.meaning? (flags : Flags) (l : Literal) : Option CharClass :=
  if !flags .unicode && l.isOctet && 0x80 ≤ l.char.toNat then none
  else some (caseVariants flags (.single l.char))

/-- The set of a dot. -/
def dotMeaning? (flags : Flags) : Option CharClass :=
  if !flags .unicode then none
  else if flags .dotMatchesNewLine then some .all
  else if flags .carriageReturn then some (.complement (.union (.single '\r') (.single '\n')))
  else some (.complement (.single '\n'))

/-- The condition of an anchor. -/
def Anchor.meaning (flags : Flags) : Anchor → Look
  | .lineStart =>
    if flags .multiLine then .lineStart (flags .carriageReturn) else .textStart
  | .lineEnd => if flags .multiLine then .lineEnd (flags .carriageReturn) else .textEnd
  | .textStart => .textStart
  | .textEnd => .textEnd
  | .boundary => .word .either (!flags .unicode)
  | .noBoundary => .word .inside (!flags .unicode)
  | .wordStart => .word .start (!flags .unicode)
  | .wordEnd => .word .finish (!flags .unicode)
  | .wordStartHalf => .word .startHalf (!flags .unicode)
  | .wordEndHalf => .word .finishHalf (!flags .unicode)

/-! ### Patterns -/

/-- The flags in force and the sets met so far. -/
structure Context where
  flags : Flags := .initial
  sets : Array CharClass := #[]

namespace Context

/-- Enters a set into the table. -/
def enter (x : Context) (set : CharClass) : Expr × Context :=
  (.set x.sets.size, { x with sets := x.sets.push set })

end Context

/-- The expression of a pattern, and the context behind it. -/
def Term.meaning? (x : Context) : Term → Option (Expr × Context)
  | .empty => some (.empty, x)
  | .flags change => some (.empty, { x with flags := x.flags.apply change })
  | .literal l => (l.meaning? x.flags).map x.enter
  | .dot => (dotMeaning? x.flags).map x.enter
  | .anchor kind => some (.look (kind.meaning x.flags), x)
  | .shorthand kind negated => (kind.meaning? x.flags negated).map x.enter
  | .property query negated => (query.meaning? x.flags negated).map x.enter
  | .set term => (term.meaning? x.flags).map x.enter
  | .repetition least most a => do
    let (a, x) ← a.meaning? x
    return (.times a least most, x)
  | .group change a => do
    let (a, inside) ← a.meaning? { x with flags := x.flags.apply change }
    return (a, { inside with flags := x.flags })
  | .alternation a b => do
    let (a, x) ← a.meaning? x
    let (b, x) ← b.meaning? x
    return (.alt a b, x)
  | .sequence a b => do
    let (a, x) ← a.meaning? x
    let (b, x) ← b.meaning? x
    return (.seq a b, x)

end JavaHomes.Pattern
