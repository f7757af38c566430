import JavaHomes.Text.Decimal
import JavaHomes.Unicode.CodePoints

/-!
Reading JSON text as values of a known shape. The text is read once from left to right and the first
problem decides: `unsuitable` when a well-formed piece is not of the shape, `unfinished` when the
text ends too early, `malformed` for everything else.
-/

namespace JavaHomes.Json

/-- Why a text cannot be read. -/
inductive Fault where
  | malformed
  | unsuitable
  | unfinished
  deriving DecidableEq, Repr

/-- Reads a value from the front of a text and leaves the rest. -/
abbrev Reader := StateT (List Char) (Except Fault)

/-- White space between the parts of a text. -/
def isSpace (c : Char) : Bool :=
  c == ' ' || c == '\n' || c == '\t' || c == '\r'

/-! ### Strings -/

/-- A piece of a string: a character, or a number that was written with four hexadecimal digits. -/
inductive Piece where
  | char (c : Char)
  | unit (n : Nat)

/-- The character that an escape of one letter stands for. -/
def shortEscape? : Char → Option Char
  | '"' => some '"'
  | '\\' => some '\\'
  | '/' => some '/'
  | 'b' => some '\x08'
  | 'f' => some '\x0c'
  | 'n' => some '\n'
  | 'r' => some '\r'
  | 't' => some '\t'
  | _ => none

/-- Whether a character is a hexadecimal digit. -/
def isHexDigit (c : Char) : Bool :=
  c.isDigit || ('a' ≤ c && c ≤ 'f') || ('A' ≤ c && c ≤ 'F')

/-- The number of octets of a text. -/
def octets (s : List Char) : Nat :=
  (String.ofList s).utf8ByteSize

/-- The pieces up to the closing quotation mark and the text behind it, or the fault that ends the
string. Control characters have to be escaped. -/
def pieces : List Char → List Piece × Except Fault (List Char)
  | [] => ([], .error .unfinished)
  | '"' :: s => ([], .ok s)
  | '\\' :: [] => ([], .error .unfinished)
  | '\\' :: 'u' :: digits =>
    match digits with
    | a :: b :: c :: d :: s =>
      if [a, b, c, d].all isHexDigit then
        let (more, ending) := pieces s
        (.unit (Unicode.hexNumber ([a, b, c, d].map Char.toUpper)) :: more, ending)
      else ([], .error .malformed)
    | _ => ([], .error (if octets digits < 4 then .unfinished else .malformed))
  | '\\' :: c :: s =>
    match shortEscape? c with
    | some c =>
      let (more, ending) := pieces s
      (.char c :: more, ending)
    | none => ([], .error .malformed)
  | c :: s =>
    if c.toNat < 0x20 then ([], .error .malformed)
    else
      let (more, ending) := pieces s
      (.char c :: more, ending)

/-- Whether a number is the first half of a pair. -/
def isLeading (n : Nat) : Bool :=
  0xD800 ≤ n && n ≤ 0xDBFF

/-- Whether a number is the second half of a pair. -/
def isTrailing (n : Nat) : Bool :=
  0xDC00 ≤ n && n ≤ 0xDFFF

/-- The character of a pair. -/
def pairChar (leading trailing : Nat) : Char :=
  Char.ofNat ((leading - 0xD800) * 0x400 + (trailing - 0xDC00) + 0x10000)

/-- The characters of some pieces that end in `ending`. A number that is half of a pair needs the
other half right behind it. -/
def assemble (ending : Except Fault Unit) : List Piece → Except Fault (List Char)
  | [] => ending.map fun _ => []
  | .char c :: rest => (assemble ending rest).map (c :: ·)
  | .unit n :: .unit m :: rest =>
    if isLeading n then
      if isTrailing m then (assemble ending rest).map (pairChar n m :: ·) else .error .malformed
    else if isTrailing n then .error .malformed
    else (assemble ending (.unit m :: rest)).map (Char.ofNat n :: ·)
  | .unit n :: rest =>
    if isTrailing n then .error .malformed
    else if isLeading n then
      match rest, ending with
      | [], .error f => .error f
      | _, _ => .error .malformed
    else (assemble ending rest).map (Char.ofNat n :: ·)

/-- The characters of a string, behind its opening quotation mark. -/
def stringBody : Reader String := fun s =>
  let (all, ending) := pieces s
  match assemble (ending.map fun _ => ()) all, ending with
  | .ok content, .ok rest => .ok (String.ofList content, rest)
  | .error f, _ => .error f
  | _, .error f => .error f

/-- Passes over a string, behind its opening quotation mark. Halves of pairs may stand alone. -/
def skipString : Reader Unit := fun s =>
  (pieces s).2.map fun rest => ((), rest)

/-! ### Numbers -/

/-- A number as it is written. -/
structure Numeral where
  negative : Bool
  whole : List Char
  fraction : List Char := []
  exponentNegative : Bool := false
  exponent : List Char := []
  /-- Whether there is neither a fraction nor an exponent. -/
  isWhole : Bool := true

/-- Digits, of which there must be at least one; `cut` is the fault when the text ends instead. -/
def digits (cut : Fault) : Reader (List Char) := fun s =>
  match s.takeWhile Char.isDigit with
  | [] => .error (if s.isEmpty then cut else .malformed)
  | run => .ok (run, s.drop run.length)

/-- Takes the character in front if it is one of `all`. -/
def accept? (all : List Char) : Reader (Option Char) := fun s =>
  match s with
  | c :: rest => if all.contains c then .ok (some c, rest) else .ok (none, s)
  | [] => .ok (none, [])

/-- A numeral; `cut` is the fault when the text ends inside it. A zero in front stands alone. -/
def numeral (cut : Fault) : Reader Numeral := do
  let negative := (← accept? ['-']).isSome
  let whole ← digits cut
  if whole.head? == some '0' && whole.length != 1 then throw .malformed
  let mut n : Numeral := { negative, whole }
  if (← accept? ['.']).isSome then
    n := { n with fraction := ← digits cut, isWhole := false }
  if (← accept? ['e', 'E']).isSome then
    let sign ← accept? ['+', '-']
    n := { n with exponentNegative := sign == some '-', exponent := ← digits cut, isWhole := false }
  return n

namespace Numeral

/-- The digits of a numeral without the point, as a number. -/
def significand (n : Numeral) : Nat :=
  Text.Decimal.value (n.whole ++ n.fraction)

/-- The power of ten that belongs to `significand`. -/
def scale (n : Numeral) : Int :=
  let e : Int := Text.Decimal.value n.exponent
  (if n.exponentNegative then -e else e) - n.fraction.length

/-- The least number that is too large for a floating-point number of 64 bits. -/
def floatBound : Nat := Nat.pow 2 1024 - Nat.pow 2 970

/-- Whether the number is too large for a floating-point number of 64 bits. Its decimal length
decides unless it is near the bound. -/
def isHuge (n : Numeral) : Bool :=
  if n.significand == 0 then false
  else
    let length : Int := (Text.Decimal.write n.significand).length + n.scale
    if length ≤ 308 then false
    else if 309 < length then true
    else if 0 ≤ n.scale then floatBound ≤ n.significand * Nat.pow 10 n.scale.toNat
    else floatBound * Nat.pow 10 (-n.scale).toNat ≤ n.significand

/-- The value, if it is a whole number below `2 ^ 64` and written as one, without a sign. -/
def natural? (n : Numeral) : Option Nat :=
  if n.isWhole && !n.negative && n.significand < Text.Decimal.wordBound then some n.significand
  else none

end Numeral

/-! ### Values -/

/-- The next character that is no white space, which is left in place. -/
def peek? : Reader (Option Char) := fun s =>
  let s := s.dropWhile isSpace
  .ok (s.head?, s)

/-- The next character that is no white space, which is left in place and has to be there. -/
def peek : Reader Char := do
  match ← peek? with
  | some c => return c
  | none => throw .unfinished

/-- Takes the character in front away. -/
def drop : Reader Unit := modify (List.drop 1)

/-- Takes the characters of `word` away, which have to be in front. -/
def takeWord : List Char → Reader Unit
  | [] => return
  | c :: word => do
    match ← get with
    | [] => throw .unfinished
    | d :: rest =>
      if c != d then throw .malformed
      set rest
      takeWord word

/-- The mark `c`, perhaps behind white space. -/
def mark (c : Char) : Reader Unit := do
  if (← peek) == c then drop else throw .malformed

/-- Refuses a value that is not of the shape. A scalar has to be well formed even so. -/
def refuse : Reader α := do
  let c ← peek
  if c == 'n' then takeWord "null".toList
  else if c == 't' then takeWord "true".toList
  else if c == 'f' then takeWord "false".toList
  else if c == '"' then
    drop
    let _ ← stringBody
  else if c == '-' || c.isDigit then
    if (← numeral .unfinished).isHuge then throw .malformed
  else if c != '[' && c != '\x7b' then throw .malformed
  throw .unsuitable

/-- A string. -/
def text : Reader String := do
  if (← peek) == '"' then
    drop
    stringBody
  else refuse

/-- A natural number below `2 ^ 64`. -/
def natural64 : Reader Nat := do
  let c ← peek
  if c == '-' || c.isDigit then
    let n ← numeral .unfinished
    if n.isHuge then throw .malformed
    match n.natural? with
    | some value => return value
    | none => throw .unsuitable
  else refuse

/-- A truth value. -/
def boolean : Reader Bool := do
  let c ← peek
  if c == 't' then
    takeWord "true".toList
    return true
  else if c == 'f' then
    takeWord "false".toList
    return false
  else refuse

/-- Nothing but `null`. -/
def nothing : Reader Unit := do
  if (← peek) == 'n' then takeWord "null".toList else refuse

/-- A value or `null`. -/
def orNull (value : Reader α) : Reader (Option α) := do
  if (← peek?) == some 'n' then
    takeWord "null".toList
    return none
  else return some (← value)

/-- A string that means something. -/
def meaning (f : String → Option α) : Reader α := do
  match f (← text) with
  | some a => return a
  | none => throw .unsuitable

/-- One of some names: a string, or an object with the name as its only key and `null` behind it. -/
def choice (names : List (String × α)) : Reader α := do
  let named := meaning fun s => (names.find? fun e => e.1 == s).map Prod.snd
  let c ← peek
  if c == '"' then named
  else if c == '\x7b' then
    drop
    let a ← named
    mark ':'
    nothing
    mark '\x7d'
    return a
  else throw .malformed

/-! ### Lists and objects -/

/-- Whether one more part follows inside brackets. Parts are set apart by commas, with none behind
the last one. -/
def another (closing : Char) (first : Bool) : Reader Bool := do
  let c ← peek
  if c == closing then return false
  else if first then return true
  else if c == ',' then
    drop
    if (← peek) == closing then throw .malformed
    return true
  else throw .malformed

/-- The items up to the closing bracket, which is left in place. -/
def items (item : Reader α) : (fuel : Nat) → (first : Bool) → Reader (List α)
  | 0, _ => throw .malformed
  | fuel + 1, first => do
    if ← another ']' first then
      let a ← item
      return a :: (← items item fuel false)
    else return []

/-- A list. -/
def listOf (item : Reader α) : Reader (List α) := do
  if (← peek) == '[' then
    drop
    let all ← items item ((← get).length + 1) true
    drop
    return all
  else refuse

/-- A key, behind which comes its value. -/
def key : Reader String := do
  if (← peek) == '"' then
    drop
    stringBody
  else throw .malformed

/-- The members up to the closing brace, which is left in place. -/
def members (value : Reader α) : (fuel : Nat) → (first : Bool) → Reader (List (String × α))
  | 0, _ => throw .malformed
  | fuel + 1, first => do
    if ← another '\x7d' first then
      let k ← key
      mark ':'
      let a ← value
      return (k, a) :: (← members value fuel false)
    else return []

/-- The members of an object, in their order. -/
def membersOf (value : Reader α) : Reader (List (String × α)) := do
  if (← peek) == '\x7b' then
    drop
    let all ← members value ((← get).length + 1) true
    drop
    return all
  else refuse

/-! ### Values of any shape -/

/-- Passes over a scalar. -/
def skipScalar (c : Char) : Reader Unit := do
  if c == 'n' then takeWord "null".toList
  else if c == 't' then takeWord "true".toList
  else if c == 'f' then takeWord "false".toList
  else if c == '"' then
    drop
    skipString
  else if c == '-' || c.isDigit then
    let _ ← numeral .malformed
  else throw .malformed

/-- Passes over what comes before a part inside brackets; in braces that is its key. -/
def skipKey (closing : Char) : Reader Unit := do
  if closing == '\x7d' then
    if (← peek) == '"' then
      drop
      skipString
      mark ':'
    else throw .malformed

/-- Passes over the rest of a value inside the brackets that `closers` is to close. -/
def skipRest : (fuel : Nat) → (closers : List Char) → (first : Bool) → Reader Unit
  | _, [], _ => return
  | 0, _, _ => throw .malformed
  | fuel + 1, closing :: outer, first => do
    if ← another closing first then
      skipKey closing
      let c ← peek
      if c == '[' then
        drop
        skipRest fuel (']' :: closing :: outer) true
      else if c == '\x7b' then
        drop
        skipRest fuel ('\x7d' :: closing :: outer) true
      else
        skipScalar c
        skipRest fuel (closing :: outer) false
    else
      drop
      skipRest fuel outer false

/-- Passes over a value of any shape. -/
def skipValue : Reader Unit := do
  let c ← peek
  if c == '[' then
    drop
    skipRest ((← get).length + 1) [']'] true
  else if c == '\x7b' then
    drop
    skipRest ((← get).length + 1) ['\x7d'] true
  else skipScalar c

/-! ### Whole texts -/

/-- Reads a text that holds one value and nothing else. -/
def read (value : Reader α) (s : String) : Except Fault α := do
  let (a, rest) ← value.run s.toList
  if rest.all isSpace then return a else throw .malformed

end JavaHomes.Json
