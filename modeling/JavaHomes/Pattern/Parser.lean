import JavaHomes.Pattern.Reader

/-!
Reading a whole pattern. The groups that are open form a stack; each keeps its finished alternatives
and the items of the alternative that is being read.
-/

namespace JavaHomes.Pattern

/-- The number of levels that a pattern may be nested. -/
def nestLimit : Nat := 250

/-- One open group. Alternatives and items are kept with the last one first. -/
structure OpenGroup where
  change : FlagChange := []
  /-- Whether the text around the group is verbose. -/
  verboseAround : Bool := false
  alternatives : List (Nested Term) := []
  items : List (Nested Term) := []

namespace OpenGroup

/-- Adds an item to the alternative that is being read. -/
def push (g : OpenGroup) (item : Nested Term) : OpenGroup :=
  { g with items := item :: g.items }

/-- The alternative that is being read. -/
def sequence (g : OpenGroup) : Nested Term :=
  .combine .empty .sequence g.items.reverse

/-- Starts the next alternative. -/
def branch (g : OpenGroup) : OpenGroup :=
  { g with alternatives := g.sequence :: g.alternatives, items := [] }

/-- What stands in the group. -/
def content (g : OpenGroup) : Nested Term :=
  .combine .empty .alternation (g.sequence :: g.alternatives).reverse

/-- The last item, with a repetition around it. Flags cannot be repeated, nor can nothing. -/
def repeatLast? (g : OpenGroup) (least : Nat) (most : Option Nat) : Option OpenGroup :=
  match g.items with
  | [] => none
  | ⟨.flags _, _⟩ :: _ => none
  | item :: before => some { g with items := item.wrap (.repetition least most) :: before }

end OpenGroup

/-- The state of a reader: the innermost open group and those around it, the names given to groups
so far, and whether white space counts. -/
structure Progress where
  verbose : Bool := false
  names : List (List Char) := []
  inner : OpenGroup := {}
  outer : List OpenGroup := []

namespace Progress

/-- Adds an item to the innermost group. -/
def push (p : Progress) (item : Nested Term) : Progress :=
  { p with inner := p.inner.push item }

/-- Opens a group. -/
def openGroup (p : Progress) (change : FlagChange) : Progress :=
  { p with
    inner := { change, verboseAround := p.verbose }
    outer := p.inner :: p.outer
    verbose := (change.state? .ignoreWhitespace).getD p.verbose }

/-- Closes the innermost group, if one is open. -/
def closeGroup? (p : Progress) : Option Progress :=
  match p.outer with
  | [] => none
  | around :: outer =>
    let item := p.inner.content.wrap (.group p.inner.change)
    some { p with inner := around.push item, outer, verbose := p.inner.verboseAround }

/-- Puts a repetition around the last item. -/
def repeatLast? (p : Progress) (least : Nat) (most : Option Nat) : Option Progress :=
  (p.inner.repeatLast? least most).map fun inner => { p with inner }

end Progress

/-! ### Groups -/

/-- Whether a character may stand in the name of a group. -/
def isNameChar (first : Bool) (c : Char) : Bool :=
  if c == '_' || Unicode.Property.letters.contains c.toNat then true
  else if first then false
  else c == '.' || c == '[' || c == ']' ||
    [.decimalNumber, .letterNumber, .otherNumber].contains (Unicode.Category.ofChar c)

/-- The name of a group, up to its closing angle bracket. -/
def groupName? (s : List Char) : Option (List Char × List Char) :=
  let name := s.takeWhile (· != '>')
  match name, s.dropWhile (· != '>') with
  | first :: more, _ :: rest =>
    if isNameChar true first && more.all (isNameChar false) then some (name, rest) else none
  | _, _ => none

/-- Flags up to a colon or a closing parenthesis, which is left in place. A hyphen turns off the
flags behind it; no flag and no hyphen may be repeated, and a hyphen needs a flag behind it. -/
def flags? (negated : Bool) (change : FlagChange) :
    List Char → Option (FlagChange × List Char)
  | [] => none
  | c :: s =>
    if c == ':' || c == ')' then some (change.reverse, c :: s)
    else if c == '-' then
      if negated || [some ':', some ')'].contains s.head? then none else flags? true change s
    else
      match Flag.ofChar? c with
      | none => none
      | some flag =>
        if (change.state? flag).isSome then none
        else flags? negated ((flag, !negated) :: change) s

/-- The openings of look-around, which patterns do not have. -/
def lookarounds : List (List Char) :=
  [['?', '='], ['?', '!'], ['?', '<', '='], ['?', '<', '!']]

/-- Opens a group with a name, from the name on. -/
def openNamed? (p : Progress) (s : List Char) : Option (Progress × List Char) := do
  let (name, rest) ← groupName? s
  if p.names.contains name then none
  else return ({ p with names := name :: p.names }.openGroup [], rest)

/-- Changes flags from here on to the end of the group that is open. -/
def changeFlags? (p : Progress) (change : FlagChange) : Option Progress :=
  if change.isEmpty then none
  else
    some { p.push ⟨.flags change, 0⟩ with
      verbose := (change.state? .ignoreWhitespace).getD p.verbose }

/-- What an opening parenthesis begins, from behind it on. -/
def open? (p : Progress) (s : List Char) : Option (Progress × List Char) :=
  let s := skipSpace p.verbose s
  if lookarounds.any fun mark => mark.isPrefixOf s then none
  else
    match s with
    | '?' :: 'P' :: '<' :: rest => openNamed? p rest
    | '?' :: '<' :: rest => openNamed? p rest
    | '?' :: rest =>
      match flags? false [] rest with
      | some (change, ')' :: rest) => (changeFlags? p change).map fun p => (p, rest)
      | some (change, _ :: rest) => some (p.openGroup change, rest)
      | _ => none
    | _ => some (p.openGroup [], s)

/-! ### Repetitions -/

/-- Skips the question mark that makes a repetition prefer few. -/
def skipLazy : List Char → List Char
  | '?' :: s => s
  | s => s

/-- The end of a counted repetition. -/
def closeCount? (verbose : Bool) (least : Nat) (most : Option Nat) (s : List Char) :
    Option (Nat × Option Nat × List Char) :=
  match s with
  | '\x7d' :: _ =>
    if most.any (· < least) then none else some (least, most, skipLazy (advance verbose s))
  | _ => none

/-- A counted repetition, from its brace on: exactly, at least, or between. -/
def counted? (verbose : Bool) (s : List Char) : Option (Nat × Option Nat × List Char) :=
  let (least, rest) := count? verbose (advance verbose s)
  match least, rest with
  | some least, ',' :: _ =>
    match advance verbose rest with
    | '\x7d' :: rest => closeCount? verbose least none ('\x7d' :: rest)
    | rest =>
      match count? verbose rest with
      | (some most, rest) => closeCount? verbose least (some most) rest
      | (none, _) => none
  | some least, rest => closeCount? verbose least (some least) rest
  | none, _ => none

/-! ### The whole pattern -/

/-- The item that an escape stands for. -/
def Element.toTerm : Element → Term
  | .literal l => .literal l
  | .anchor kind => .anchor kind
  | .shorthand kind negated => .shorthand kind negated
  | .property query negated => .property query negated

/-- One step of the reader, at the character `c` in front of `s`. -/
def step? (p : Progress) (c : Char) (s : List Char) : Option (Progress × List Char) :=
  let item (t : Term) : Option (Progress × List Char) := some (p.push ⟨t, 0⟩, s)
  let again (least : Nat) (most : Option Nat) : Option (Progress × List Char) :=
    (p.repeatLast? least most).map fun p => (p, skipLazy s)
  match c with
  | '(' => open? p s
  | ')' => p.closeGroup?.map fun p => (p, s)
  | '|' => some ({ p with inner := p.inner.branch }, s)
  | '[' =>
    (set? p.verbose (c :: s)).map fun (set, rest) =>
      (p.push ⟨.set set.value, set.depth⟩, rest)
  | '?' => again 0 (some 1)
  | '*' => again 0 none
  | '+' => again 1 none
  | '\x7b' =>
    (counted? p.verbose (c :: s)).bind fun (least, most, rest) =>
      (p.repeatLast? least most).map fun p => (p, rest)
  | '\\' => (escape? p.verbose s).map fun (e, rest) => (p.push ⟨e.toTerm, 0⟩, rest)
  | '.' => item .dot
  | '^' => item (.anchor .lineStart)
  | '$' => item (.anchor .lineEnd)
  | _ => item (.literal ⟨c, false⟩)

/-- Steps to the end of the text. Every step takes at least one character. -/
def steps? : (fuel : Nat) → Progress → List Char → Option Progress
  | 0, _, _ => none
  | fuel + 1, p, s =>
    match skipSpace p.verbose s with
    | [] => some p
    | c :: rest =>
      match step? p c rest with
      | some (p, rest) => steps? fuel p rest
      | none => none

/-- Reads a pattern; `none` when it is not well formed or nested too deeply. -/
def Term.ofChars? (s : List Char) : Option Term :=
  match steps? (s.length + 1) {} s with
  | some p =>
    let whole := p.inner.content
    if p.outer.isEmpty && whole.depth ≤ nestLimit then some whole.value else none
  | none => none

end JavaHomes.Pattern
