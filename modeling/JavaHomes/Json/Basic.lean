import JavaHomes.Text.Blank
import JavaHomes.Text.Decimal

/-!
JSON values and their text, on one line (`compact`) or with one member a line (`pretty`). The
members of an object keep their order.
-/

namespace JavaHomes

/-- A JSON value whose numbers are natural. -/
inductive Json where
  | null
  | bool (b : Bool)
  | natural (n : Nat)
  | string (s : String)
  | list (items : List Json)
  | object (members : List (String × Json))

namespace Json

/-- A hexadecimal digit in lower case. -/
def hexDigit (n : Nat) : Char :=
  (Nat.toDigits 16 (n % 16)).headD '0'

/-- One character inside a string. Quotation mark, backslash and control characters are escaped. -/
def escape (c : Char) : List Char :=
  match c with
  | '"' => ['\\', '"']
  | '\\' => ['\\', '\\']
  | '\x08' => ['\\', 'b']
  | '\x0c' => ['\\', 'f']
  | '\n' => ['\\', 'n']
  | '\r' => ['\\', 'r']
  | '\t' => ['\\', 't']
  | _ =>
    if c.toNat < 0x20 then
      ['\\', 'u', '0', '0', hexDigit (c.toNat / 16), hexDigit c.toNat]
    else [c]

/-- The text of a string. -/
def quote (s : String) : List Char :=
  '"' :: s.toList.flatMap escape ++ ['"']

/-- How the parts of a list or an object are set apart at a certain level. -/
structure Layout where
  /-- Whether every part has a line of its own. -/
  spread : Bool
  level : Nat := 0

namespace Layout

/-- The break before a part, or before the closing bracket. -/
def lineBreak (l : Layout) : List Char :=
  if l.spread then '\n' :: List.replicate (2 * l.level) ' ' else []

/-- One level further in. -/
def deeper (l : Layout) : Layout :=
  { l with level := l.level + 1 }

/-- What stands between a key and its value. -/
def colon (l : Layout) : List Char :=
  if l.spread then [':', ' '] else [':']

/-- The parts between brackets, with commas. No parts need no break. -/
def enclose (l : Layout) (left right : Char) (parts : List (List Char)) : List Char :=
  match parts with
  | [] => [left, right]
  | _ =>
    left :: (([','].intercalate (parts.map fun p => l.deeper.lineBreak ++ p)) ++
      l.lineBreak ++ [right])

end Layout

mutual

/-- The text of a value. -/
def render (l : Layout) : Json → List Char
  | null => "null".toList
  | bool true => "true".toList
  | bool false => "false".toList
  | natural n => Text.Decimal.write n
  | string s => quote s
  | list items => l.enclose '[' ']' (renderItems l.deeper items)
  | object members => l.enclose '\x7b' '\x7d' (renderMembers l.deeper members)

/-- The texts of the items of a list. -/
def renderItems (l : Layout) : List Json → List (List Char)
  | [] => []
  | item :: rest => render l item :: renderItems l rest

/-- The texts of the members of an object. -/
def renderMembers (l : Layout) : List (String × Json) → List (List Char)
  | [] => []
  | (key, value) :: rest => (quote key ++ l.colon ++ render l value) :: renderMembers l rest

end

/-- The text on one line. -/
def compact (v : Json) : String :=
  String.ofList (render ⟨false, 0⟩ v)

/-- The text with one item or member a line. -/
def pretty (v : Json) : String :=
  String.ofList (render ⟨true, 0⟩ v)

/-- A list of strings. -/
def strings (all : List String) : Json :=
  list (all.map string)

/-- A value that may be absent. -/
def optional (f : α → Json) : Option α → Json
  | some a => f a
  | none => null

end Json

end JavaHomes
