import JavaHomes.Pattern.Term
import JavaHomes.Text.Decimal

/-!
Reading single elements of a pattern: blanks and comments, numbers, escapes and sets in brackets.
Every reader takes the text from where it stands and gives back what is left; `none` means that the
pattern is not well formed. In verbose mode white space and comments between the characters of an
element do not count.
-/

namespace JavaHomes.Pattern

/-- Skips white space, and comments from a number sign to the end of the line. -/
def skipBlank (inComment : Bool) : List Char → List Char
  | [] => []
  | c :: s =>
    if inComment then skipBlank (c != '\n') s
    else if Text.isBlank c then skipBlank false s
    else if c == '#' then skipBlank true s
    else c :: s

/-- Skips what does not count in verbose mode. -/
def skipSpace (verbose : Bool) (s : List Char) : List Char :=
  if verbose then skipBlank false s else s

/-- Takes the character in front away, and what does not count behind it. -/
def advance (verbose : Bool) (s : List Char) : List Char :=
  skipSpace verbose (s.drop 1)

/-- The next character but one that counts, when a set is read. A comment hides only its own number
sign and the white space behind it. -/
def peekPast : List Char → Bool → Option Char
  | [], _ => none
  | c :: s, inComment =>
    if Text.isBlank c then peekPast s inComment
    else if !inComment && c == '#' then peekPast s true
    else some c

/-- The character after the one in front. -/
def peekSpace (verbose : Bool) (s : List Char) : Option Char :=
  if verbose then peekPast (s.drop 1) false else (s.drop 1).head?

/-- Takes characters of `p` as long as there are any. -/
def takeRun (verbose : Bool) (p : Char → Bool) : (fuel : Nat) → List Char → List Char × List Char
  | 0, s => ([], s)
  | _ + 1, [] => ([], [])
  | fuel + 1, c :: s =>
    if p c then
      let (run, rest) := takeRun verbose p fuel (advance verbose (c :: s))
      (c :: run, rest)
    else ([], c :: s)

/-- The characters of `p` in front of `s`. -/
def run (verbose : Bool) (p : Char → Bool) (s : List Char) : List Char × List Char :=
  takeRun verbose p s.length s

/-- The greatest number of repetitions that can be written. -/
def countLimit : Nat := 4294967295

/-- A number of repetitions, with white space around it. -/
def count? (verbose : Bool) (s : List Char) : Option Nat × List Char :=
  let (digits, rest) := run verbose Char.isDigit (s.dropWhile Text.isBlank)
  ((Text.Decimal.read? digits).filter (· ≤ countLimit), rest.dropWhile Text.isBlank)

/-- Whether a character is a hexadecimal digit. -/
def isHexDigit (c : Char) : Bool :=
  c.isDigit || ('a' ≤ c && c ≤ 'f') || ('A' ≤ c && c ≤ 'F')

/-- The character that a hexadecimal number stands for. -/
def hexChar? (digits : List Char) : Option Char :=
  let n := Unicode.hexNumber (digits.map Char.toUpper)
  if digits.all isHexDigit && n.isValidChar then some (Char.ofNat n) else none

/-- `n` characters in front of `s`; none when there are fewer. -/
def takeSpaced? (verbose : Bool) : Nat → List Char → Option (List Char × List Char)
  | 0, s => some ([], s)
  | _ + 1, [] => none
  | n + 1, c :: s => do
    let (more, rest) ← takeSpaced? verbose n (advance verbose (c :: s))
    return (c :: more, rest)

/-- The rest of a hexadecimal escape, behind `x`, `u` or `U`: a number in braces, or as many digits
as the letter asks for. -/
def hexEscape? (verbose : Bool) (digits : Nat) (s : List Char) :
    Option (Literal × List Char) :=
  match s with
  | '\x7b' :: _ =>
    let (number, rest) := run verbose (· != '\x7d') (advance verbose s)
    if number.isEmpty || rest.isEmpty then none
    else do
      let c ← hexChar? number
      return (⟨c, false⟩, advance verbose rest)
  | _ => do
    let (number, rest) ← takeSpaced? verbose digits s
    let c ← hexChar? number
    return (⟨c, digits == 2⟩, rest)

/-- Cuts a text at the first occurrence of a mark. -/
def cutAt (mark : List Char) (s : List Char) : Option PropertyQuery :=
  (Text.splitOnce mark s).map fun (name, value) => .valued name value

/-- The query that stands in braces: a name, or a name and a value. -/
def queryOf (s : List Char) : PropertyQuery :=
  ((cutAt ['!', '='] s).or ((cutAt [':'] s).or (cutAt ['='] s))).getD (.named s)

/-- The rest of a property escape, behind `p` or `P`. -/
def propertyEscape? (verbose : Bool) (s : List Char) : Option (PropertyQuery × List Char) :=
  match s with
  | [] => none
  | '\x7b' :: _ =>
    let (name, rest) := run verbose (· != '\x7d') (advance verbose s)
    if rest.isEmpty then none else some (queryOf name, rest.drop 1)
  | '\\' :: _ => none
  | c :: _ => some (.named [c], advance verbose s)

/-- What an escape can stand for. -/
inductive Element where
  | literal (l : Literal)
  | anchor (kind : Anchor)
  | shorthand (kind : Shorthand) (negated : Bool)
  | property (query : PropertyQuery) (negated : Bool)

/-- The characters with a meaning of their own, which an escape takes away. -/
def isMeta (c : Char) : Bool :=
  ['\\', '.', '+', '*', '?', '(', ')', '|', '[', ']', '\x7b', '\x7d', '^', '$', '#', '&', '-',
    '~'].contains c

/-- The characters that may be escaped: those with a meaning, and all of ASCII but letters, digits
and angle brackets. -/
def isEscapable (c : Char) : Bool :=
  isMeta c || (c.toNat < 0x80 && !c.isAlphanum && c != '<' && c != '>')

/-- The characters of the names of word boundaries. -/
def isBoundaryChar (c : Char) : Bool :=
  c.isAlpha || c == '-'

/-- The rest of a word boundary, behind `b`: perhaps a kind in braces. Braces with anything but a
name belong to a repetition. -/
def boundary? (verbose : Bool) (s : List Char) : Option (Element × List Char) :=
  match s with
  | '\x7b' :: _ =>
    let inside := advance verbose s
    match inside with
    | [] => none
    | c :: _ =>
      if !isBoundaryChar c then some (.anchor .boundary, s)
      else
        let (name, rest) := run verbose isBoundaryChar inside
        if rest.head? != some '\x7d' then none
        else
          match String.ofList name with
          | "start" => some (.anchor .wordStart, rest.drop 1)
          | "end" => some (.anchor .wordEnd, rest.drop 1)
          | "start-half" => some (.anchor .wordStartHalf, rest.drop 1)
          | "end-half" => some (.anchor .wordEndHalf, rest.drop 1)
          | _ => none
  | _ => some (.anchor .boundary, s)

/-- The rest of an escape, behind the backslash. -/
def escape? (verbose : Bool) (s : List Char) : Option (Element × List Char) :=
  match s with
  | [] => none
  | c :: rest =>
    let plain (char : Char) : Option (Element × List Char) :=
      some (.literal ⟨char, false⟩, rest)
    match c with
    | 'x' => (hexEscape? verbose 2 (advance verbose s)).map fun (l, r) => (.literal l, r)
    | 'u' => (hexEscape? verbose 4 (advance verbose s)).map fun (l, r) => (.literal l, r)
    | 'U' => (hexEscape? verbose 8 (advance verbose s)).map fun (l, r) => (.literal l, r)
    | 'p' => (propertyEscape? verbose (advance verbose s)).map fun (q, r) => (.property q false, r)
    | 'P' => (propertyEscape? verbose (advance verbose s)).map fun (q, r) => (.property q true, r)
    | 'd' => some (.shorthand .digit false, rest)
    | 's' => some (.shorthand .space false, rest)
    | 'w' => some (.shorthand .word false, rest)
    | 'D' => some (.shorthand .digit true, rest)
    | 'S' => some (.shorthand .space true, rest)
    | 'W' => some (.shorthand .word true, rest)
    | 'a' => plain '\x07'
    | 'f' => plain '\x0c'
    | 't' => plain '\t'
    | 'n' => plain '\n'
    | 'r' => plain '\r'
    | 'v' => plain '\x0b'
    | 'A' => some (.anchor .textStart, rest)
    | 'z' => some (.anchor .textEnd, rest)
    | 'B' => some (.anchor .noBoundary, rest)
    | '<' => some (.anchor .wordStart, rest)
    | '>' => some (.anchor .wordEnd, rest)
    | 'b' => boundary? verbose rest
    | _ => if isEscapable c then plain c else none

/-! ### Sets in brackets -/

/-- One open bracket: the elements read so far, the last one first, and the operation that waits for
its right side. -/
structure OpenSet where
  negated : Bool
  items : List (Nested SetTerm) := []
  pending : Option (SetOperation × Nested SetTerm) := none

namespace OpenSet

/-- Adds an element. -/
def push (o : OpenSet) (item : Nested SetTerm) : OpenSet :=
  { o with items := item :: o.items }

/-- What has been read: the waiting operation applied to the elements since. -/
def collected (o : OpenSet) : Nested SetTerm :=
  let right := Nested.combine .empty .union o.items.reverse
  match o.pending with
  | none => right
  | some (kind, left) =>
    ⟨.operation kind left.value right.value, max left.depth right.depth + 1⟩

/-- Lets an operation wait for the elements to come. -/
def operate (o : OpenSet) (kind : SetOperation) : OpenSet :=
  { o with items := [], pending := some (kind, o.collected) }

/-- The finished set. -/
def close (o : OpenSet) : Nested SetTerm :=
  o.collected.wrap (.bracketed o.negated)

end OpenSet

/-- Hyphens right behind an opening bracket, which stand for themselves. -/
def leadingHyphens (verbose : Bool) : (fuel : Nat) → OpenSet → List Char → OpenSet × List Char
  | fuel + 1, o, '-' :: s =>
    leadingHyphens verbose fuel (o.push ⟨.literal ⟨'-', false⟩, 0⟩) (advance verbose ('-' :: s))
  | _, o, s => (o, s)

/-- The beginning of a set, from its bracket on: the negation, leading hyphens, and a closing
bracket that stands for itself because nothing comes before it. -/
def openSet? (verbose : Bool) (s : List Char) : Option (OpenSet × List Char) :=
  let s := advance verbose s
  let negated := s.head? == some '^'
  let s := if negated then advance verbose s else s
  let (o, s) := leadingHyphens verbose s.length { negated } s
  match s with
  | [] => none
  | ']' :: _ =>
    if o.items.isEmpty then
      let s := advance verbose s
      if s.isEmpty then none else some (o.push ⟨.literal ⟨']', false⟩, 0⟩, s)
    else some (o, s)
  | _ => some (o, s)

/-- An ASCII class, such as `[:alpha:]`, from its bracket on. -/
def asciiSet? (s : List Char) : Option (SetTerm × List Char) :=
  match s with
  | '[' :: ':' :: rest =>
    let negated := rest.head? == some '^'
    let rest := if negated then rest.drop 1 else rest
    match rest.dropWhile (· != ':') with
    | ':' :: ']' :: after =>
      (asciiClass? (String.ofList (rest.takeWhile (· != ':')))).map fun set =>
        (.ascii set negated, after)
    | _ => none
  | _ => none

/-- A character or an escape in a set. -/
def setElement? (verbose : Bool) (s : List Char) : Option (Element × List Char) :=
  match s with
  | [] => none
  | '\\' :: rest => escape? verbose rest
  | c :: rest => some (.literal ⟨c, false⟩, rest)

/-- An element on its own. Places cannot be members of a set. -/
def Element.toSet? : Element → Option SetTerm
  | .literal l => some (.literal l)
  | .shorthand kind negated => some (.shorthand kind negated)
  | .property query negated => some (.property query negated)
  | .anchor _ => none

/-- An element of a set or a range. A hyphen makes a range unless it comes last or is doubled. -/
def setItem? (verbose : Bool) (s : List Char) : Option (SetTerm × List Char) := do
  let (first, rest) ← setElement? verbose s
  let rest := skipSpace verbose rest
  if rest.isEmpty then none
  else if rest.head? != some '-' || peekSpace verbose rest == some ']' ||
      peekSpace verbose rest == some '-' then
    let item ← first.toSet?
    return (item, rest)
  else
    let rest := advance verbose rest
    let (last, rest) ← setElement? verbose rest
    match first, last with
    | .literal a, .literal b =>
      if a.char ≤ b.char then return (.range a b, rest) else none
    | _, _ => none

/-- Reads on inside a set; `outer` are the sets around it. -/
def setLoop? (verbose : Bool) :
    (fuel : Nat) → OpenSet → List OpenSet → List Char → Option (Nested SetTerm × List Char)
  | 0, _, _, _ => none
  | fuel + 1, o, outer, s =>
    match skipSpace verbose s with
    | [] => none
    | '[' :: rest =>
      match asciiSet? ('[' :: rest) with
      | some (item, rest) => setLoop? verbose fuel (o.push ⟨item, 0⟩) outer rest
      | none => do
        let (inner, rest) ← openSet? verbose ('[' :: rest)
        setLoop? verbose fuel inner (o :: outer) rest
    | ']' :: rest =>
      match outer with
      | [] => some (o.close, rest)
      | parent :: outer => setLoop? verbose fuel (parent.push o.close) outer rest
    | '&' :: '&' :: rest => setLoop? verbose fuel (o.operate .intersection) outer rest
    | '-' :: '-' :: rest => setLoop? verbose fuel (o.operate .difference) outer rest
    | '~' :: '~' :: rest => setLoop? verbose fuel (o.operate .symmetricDifference) outer rest
    | s => do
      let (item, rest) ← setItem? verbose s
      setLoop? verbose fuel (o.push ⟨item, 0⟩) outer rest

/-- A set in brackets, from its bracket on. -/
def set? (verbose : Bool) (s : List Char) : Option (Nested SetTerm × List Char) := do
  let (o, rest) ← openSet? verbose s
  setLoop? verbose (rest.length + 1) o [] rest

end JavaHomes.Pattern
