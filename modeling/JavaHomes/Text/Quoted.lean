import JavaHomes.Unicode.Category
import JavaHomes.Unicode.Property

/-!
Quotation of arbitrary text inside a message: between double quotes, with everything that a reader
could not see or could mistake written as an escape.
-/

namespace JavaHomes.Text.Quoted

/-- Whether a character has a form of its own on the page: no control or format character, nothing
private or unassigned, no separator other than the space, and no filler that may be ignored. -/
def isVisible (c : Char) : Bool :=
  c == ' ' ||
    match Unicode.Category.ofChar c with
    | .control | .format | .surrogate | .privateUse | .unassigned => false
    | .lineSeparator | .paragraphSeparator | .spaceSeparator => false
    | _ => !Unicode.Property.ignorable.contains c.toNat

/-- Whether a character would attach itself to the quotation mark or character before it. -/
def isAttached (c : Char) : Bool :=
  Unicode.Property.attached.contains c.toNat

/-- The escape that names the code point in hexadecimal. -/
def numbered (c : Char) : List Char :=
  ['\\', 'u', '\x7b'] ++ Nat.toDigits 16 c.toNat ++ ['\x7d']

/-- One character of the quoted text. -/
def escape (c : Char) : List Char :=
  match c with
  | '\x00' => ['\\', '0']
  | '\t' => ['\\', 't']
  | '\r' => ['\\', 'r']
  | '\n' => ['\\', 'n']
  | '"' => ['\\', '"']
  | '\\' => ['\\', '\\']
  | _ => if isAttached c || !isVisible c then numbered c else [c]

/-- The quoted form of a text. -/
def write (s : List Char) : List Char :=
  '"' :: s.flatMap escape ++ ['"']

/-- The quoted form of a string. -/
def ofString (s : String) : String :=
  String.ofList (write s.toList)

end JavaHomes.Text.Quoted
