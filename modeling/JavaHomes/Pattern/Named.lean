import JavaHomes.Pattern.CharClass

/-!
The sets of characters that patterns can name: the ASCII classes in brackets, the one-letter
shorthands, and the Unicode properties. Case, spaces, hyphens, underscores and a leading `is` do not
count in the name of a property.
-/

namespace JavaHomes.Pattern

/-- The ASCII class with a given name. -/
def asciiClass? : String → Option CharClass
  | "alnum" => some (.unions [.range 48 57, .range 65 90, .range 97 122])
  | "alpha" => some (.unions [.range 65 90, .range 97 122])
  | "ascii" => some (.range 0 127)
  | "blank" => some (.unions [.range 9 9, .range 32 32])
  | "cntrl" => some (.unions [.range 0 31, .range 127 127])
  | "digit" => some (.range 48 57)
  | "graph" => some (.range 33 126)
  | "lower" => some (.range 97 122)
  | "print" => some (.range 32 126)
  | "punct" => some (.unions [.range 33 47, .range 58 64, .range 91 96, .range 123 126])
  | "space" => some (.unions [.range 9 13, .range 32 32])
  | "upper" => some (.range 65 90)
  | "word" => some (.unions [.range 48 57, .range 65 90, .range 95 95, .range 97 122])
  | "xdigit" => some (.unions [.range 48 57, .range 65 70, .range 97 102])
  | _ => none

/-- The sets with a one-letter shorthand. -/
inductive Shorthand where
  | digit
  | space
  | word

/-- The shorthand's set over all of Unicode. -/
def Shorthand.set : Shorthand → CharClass
  | .digit => .categories [.decimalNumber]
  | .space => .blank
  | .word => .word

/-- The shorthand's set within ASCII. -/
def Shorthand.asciiSet : Shorthand → CharClass
  | .digit => .range 48 57
  | .space => .unions [.range 9 13, .range 32 32]
  | .word => .unions [.range 48 57, .range 65 90, .range 95 95, .range 97 122]

/-- The characters of a name that count, in lower case. -/
def essence (name : List Char) : List Char :=
  (name.filter fun c => c != ' ' && c != '_' && c != '-' && c.toNat < 0x80).map Char.toLower

/-- A property name in the form in which names are compared. -/
def normalName (name : List Char) : String :=
  match name with
  | a :: b :: rest =>
    if essence [a, b] == ['i', 's'] then
      if essence rest == ['c'] then "isc" else String.ofList (essence rest)
    else String.ofList (essence name)
  | _ => String.ofList (essence name)

/-- The sets of General_Category under their names. -/
def categoryNames : List (List String × List Unicode.Category) := [
  (["c", "other"], [.control, .format, .privateUse, .unassigned]),
  (["cc", "control", "cntrl"], [.control]),
  (["cf", "format"], [.format]),
  (["cn", "unassigned"], [.unassigned]),
  (["co", "privateuse"], [.privateUse]),
  (["l", "letter"],
    [.uppercaseLetter, .lowercaseLetter, .titlecaseLetter, .modifierLetter, .otherLetter]),
  (["lc", "casedletter"], [.uppercaseLetter, .lowercaseLetter, .titlecaseLetter]),
  (["ll", "lowercaseletter"], [.lowercaseLetter]),
  (["lm", "modifierletter"], [.modifierLetter]),
  (["lo", "otherletter"], [.otherLetter]),
  (["lt", "titlecaseletter"], [.titlecaseLetter]),
  (["lu", "uppercaseletter"], [.uppercaseLetter]),
  (["m", "mark", "combiningmark"], marks),
  (["mc", "spacingmark"], [.spacingMark]),
  (["me", "enclosingmark"], [.enclosingMark]),
  (["mn", "nonspacingmark"], [.nonspacingMark]),
  (["n", "number"], [.decimalNumber, .letterNumber, .otherNumber]),
  (["nd", "decimalnumber", "digit"], [.decimalNumber]),
  (["nl", "letternumber"], [.letterNumber]),
  (["no", "othernumber"], [.otherNumber]),
  (["p", "punctuation", "punct"],
    [.connectorPunctuation, .dashPunctuation, .openPunctuation, .closePunctuation,
      .initialPunctuation, .finalPunctuation, .otherPunctuation]),
  (["pc", "connectorpunctuation"], [.connectorPunctuation]),
  (["pd", "dashpunctuation"], [.dashPunctuation]),
  (["pe", "closepunctuation"], [.closePunctuation]),
  (["pf", "finalpunctuation"], [.finalPunctuation]),
  (["pi", "initialpunctuation"], [.initialPunctuation]),
  (["po", "otherpunctuation"], [.otherPunctuation]),
  (["ps", "openpunctuation"], [.openPunctuation]),
  (["s", "symbol"], [.mathSymbol, .currencySymbol, .modifierSymbol, .otherSymbol]),
  (["sc", "currencysymbol"], [.currencySymbol]),
  (["sk", "modifiersymbol"], [.modifierSymbol]),
  (["sm", "mathsymbol"], [.mathSymbol]),
  (["so", "othersymbol"], [.otherSymbol]),
  (["z", "separator"], [.spaceSeparator, .lineSeparator, .paragraphSeparator]),
  (["zl", "lineseparator"], [.lineSeparator]),
  (["zp", "paragraphseparator"], [.paragraphSeparator]),
  (["zs", "spaceseparator"], [.spaceSeparator])]

/-- The set of a general category, or one of the three sets that are named like one. -/
def categoryClass? (name : String) : Option CharClass :=
  match name with
  | "any" => some .all
  | "ascii" => some (.range 0 127)
  | "assigned" => some (.complement (.categories [.unassigned]))
  | _ => (categoryNames.find? fun e => e.1.contains name).map fun e => .categories e.2

/-- How a pattern asks for a property. -/
inductive PropertyQuery where
  /-- By a name that stands alone. -/
  | named (name : List Char)
  /-- By the name of a property and one of its values. -/
  | valued (name value : List Char)

/-- The set that a query asks for. Alone, `cf`, `sc` and `lc` name categories; otherwise a property
that a character has or lacks goes before a category, and that before a script. -/
def PropertyQuery.set? : PropertyQuery → Option CharClass
  | .named name =>
    let n := normalName name
    let property := if n = "cf" ∨ n = "sc" ∨ n = "lc" then none else Unicode.Property.ofName? n
    match property with
    | some set => some (.points set)
    | none =>
      match categoryClass? n with
      | some c => some c
      | none => (Unicode.Script.ofName? n).map .script
  | .valued name value =>
    match normalName name with
    | "gc" | "generalcategory" => categoryClass? (normalName value)
    | "sc" | "script" => (Unicode.Script.ofName? (normalName value)).map .script
    | "scx" | "scriptextensions" =>
      (Unicode.Script.ofName? (normalName value)).map .scriptExtension
    | _ => none

end JavaHomes.Pattern
