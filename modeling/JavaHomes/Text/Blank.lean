/-!
White space, trimming and cutting of text. All functions work on lists of characters, where their
laws are shortest; a caller that holds a `String` passes `s.toList`.
-/

namespace JavaHomes.Text

/-- The characters with the Unicode property White_Space. -/
def isBlank (c : Char) : Bool :=
  let n := c.toNat
  (9 ≤ n && n ≤ 13) || n == 0x20 || n == 0x85 || n == 0xA0 || n == 0x1680 ||
    (0x2000 ≤ n && n ≤ 0x200A) || n == 0x2028 || n == 0x2029 || n == 0x202F || n == 0x205F ||
    n == 0x3000

/-- Drops the characters of `p` at the end. -/
def dropTail (p : Char → Bool) (s : List Char) : List Char :=
  (s.reverse.dropWhile p).reverse

/-- Drops the characters of `p` at both ends. -/
def trimBy (p : Char → Bool) (s : List Char) : List Char :=
  dropTail p (s.dropWhile p)

/-- Drops white space at both ends. -/
def trim (s : List Char) : List Char :=
  trimBy isBlank s

/-- A text is blank when nothing is left of it after trimming. -/
def isBlankText (s : List Char) : Bool :=
  s.all isBlank

/-- The pieces between the characters of `p`. There is always at least one piece. -/
def splitBy (p : Char → Bool) : List Char → List (List Char)
  | [] => [[]]
  | c :: s =>
    if p c then [] :: splitBy p s
    else
      match splitBy p s with
      | [] => [[c]]
      | piece :: rest => (c :: piece) :: rest

/-- The text before and after the first occurrence of `mark`. -/
def splitOnce (mark : List Char) : List Char → Option (List Char × List Char)
  | [] => if mark.isEmpty then some ([], []) else none
  | c :: s =>
    match mark.isPrefixOf? (c :: s) with
    | some rest => some ([], rest)
    | none => (splitOnce mark s).map fun (before, after) => (c :: before, after)

/-- Whether `mark` occurs in `s`. -/
def contains (mark s : List Char) : Bool :=
  (splitOnce mark s).isSome

/-- The lines of a text. A line ends with a line feed, and one carriage return before the line
feed belongs to the ending; the last line may lack its ending, and is then kept as it stands. -/
def lines : List Char → List (List Char)
  | [] => []
  | '\r' :: '\n' :: s => [] :: lines s
  | '\n' :: s => [] :: lines s
  | c :: s =>
    match lines s with
    | [] => [[c]]
    | line :: rest => (c :: line) :: rest

/-- Writes the lines with a line feed between each two. -/
def joinLines (ls : List (List Char)) : List Char :=
  ['\n'].intercalate ls

/-- `trim` on strings. -/
def trimString (s : String) : String :=
  String.ofList (trim s.toList)

/-- A lower-case copy as far as ASCII letters go; all other characters are kept. -/
def lowerAscii (s : String) : String :=
  String.ofList (s.toList.map Char.toLower)

end JavaHomes.Text
