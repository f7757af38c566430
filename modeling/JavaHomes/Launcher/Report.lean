import JavaHomes.Installation
import JavaHomes.Vendor

/-!
What a launcher says about itself. Newer launchers list their properties, one indented line
`key = value` each; all of them print a banner, whose first line has the version in double quotes.
-/

namespace JavaHomes.Launcher

/-- What is known about an installation from the output of its launcher. -/
structure Report where
  vendor : String
  version : Version
  bitness : Bitness
  deriving DecidableEq, Repr

/-- Whether a line is indented. -/
def isIndented (line : List Char) : Bool :=
  line.head?.any Text.isBlank

/-- The property that a line states. -/
def property? (line : List Char) : Option (String × String) :=
  if isIndented line then
    (Text.splitOnce [' ', '=', ' '] (Text.trim line)).map fun (key, value) =>
      (String.ofList (Text.trim key), String.ofList (Text.trim value))
  else none

/-- The properties that the output states, in its order. -/
def properties (output : List Char) : List (String × String) :=
  (Text.lines output).filterMap property?

/-- The value of a property. When it is stated more than once, the last statement counts. -/
def lastValue? (stated : List (String × String)) (key : String) : Option String :=
  (stated.reverse.find? fun e => e.1 == key).map Prod.snd

/-- The mark between the name of a program and its version in a banner. -/
def versionMark : List Char :=
  " version \"".toList

/-- The text in quotes of a banner that starts here: a word, the mark, at least one character and
the closing quote, which may stand on a later line. -/
def quotedVersion? (s : List Char) : Option (List Char) :=
  let word := s.takeWhile fun c => !Text.isBlank c
  match versionMark.isPrefixOf? (s.drop word.length) with
  | none => none
  | some rest =>
    let quoted := rest.takeWhile (· != '"')
    if word.isEmpty || quoted.isEmpty || quoted.length == rest.length then none else some quoted

/-- The version text of the first banner at the start of a line. -/
def bannerVersion? (atLineStart : Bool) : List Char → Option (List Char)
  | [] => none
  | c :: s =>
    match if atLineStart then quotedVersion? (c :: s) else none with
    | some v => some v
    | none => bannerVersion? (c == '\n') s

/-- The lines that may tell the vendor when no property does. -/
def isBannerLine (line : List Char) : Bool :=
  !line.isEmpty && !isIndented line && !"Property settings".toList.isPrefixOf line

/-- The banner: all lines that state no property. -/
def banner (output : List Char) : List Char :=
  Text.joinLines ((Text.lines output).filter isBannerLine)

/-- The version: the property, or else what the banner says. -/
def version? (output : List Char) (stated : List (String × String)) : Option Version :=
  match (lastValue? stated "java.version").bind Version.parse? with
  | some v => some v
  | none => (bannerVersion? true output).bind Version.ofChars?

/-- The vendor: the table's word for the property, or else the property itself; without the property
the table's word for the banner. -/
def vendor? (table : VendorTable) (output : List Char) (stated : List (String × String)) :
    Option String :=
  match lastValue? stated "java.vendor" with
  | some declared => some ((table.identify? declared).getD declared)
  | none => table.identify? (String.ofList (banner output))

/-- The bitness: the data model if it is one of the two, and otherwise 64 if the output or the
architecture mentions it. -/
def wordSize (output : List Char) (stated : List (String × String)) : Bitness :=
  match lastValue? stated "sun.arch.data.model" with
  | some "64" => .bits64
  | some "32" => .bits32
  | _ =>
    if Text.contains "64-Bit".toList output then .bits64
    else if (lastValue? stated "os.arch").any fun a => Text.contains "64".toList a.toList then
      .bits64
    else .bits32

/-- Reads the output of a launcher. Version and vendor have to be told. -/
def Report.ofOutput? (table : VendorTable) (output : List Char) : Option Report :=
  let stated := properties output
  match version? output stated, vendor? table output stated with
  | some version, some vendor => some ⟨vendor, version, wordSize output stated⟩
  | _, _ => none

end JavaHomes.Launcher
