import JavaHomes.Requirement
import JavaHomes.Text.Blank

/-!
The settings of the command line: every option, flag and positional argument by name, and how its
text is read.
-/

namespace JavaHomes.CommandLine

/-- Why the words of a command line are not understood, or that they ask for help. -/
inductive UsageFault where
  | help
  | version
  | helpForMissingCommand
  | missingCommand
  | unknownCommand
  | unknownArgument
  | missingArgument
  | missingValue
  | needlessValue
  | repeated
  | unreadableValue
  deriving DecidableEq, Repr

/-- Why a text is no property. -/
inductive PropertyFault where
  | noSign (text : String)
  | noName (text : String)
  deriving DecidableEq, Repr

/-- The wording of a fault. -/
def PropertyFault.message : PropertyFault → String
  | .noSign text => "expected KEY=VALUE, got '" ++ text ++ "'"
  | .noName text => "empty property name in '" ++ text ++ "'"

/-- Reads `key=value`. White space around key and value does not count; the value may hold further
equality signs. -/
def parseProperty (s : String) : Except PropertyFault (String × String) :=
  match Text.splitOnce ['='] s.toList with
  | none => .error (.noSign s)
  | some (key, value) =>
    if Text.isBlankText key then .error (.noName s)
    else .ok (String.ofList (Text.trim key), String.ofList (Text.trim value))

/-- The names of settings. -/
inductive Name where
  | config
  | searchRoot
  | property
  | currentHome
  | timeout
  | noDefaults
  | constraint
  | json
  | purpose
  deriving DecidableEq, Repr

/-- A setting with what it is set to. -/
inductive Setting where
  | config (file : Path)
  | searchRoot (root : Path)
  | property (key value : String)
  | currentHome (home : Path)
  | timeout (millis : Nat)
  | noDefaults
  | constraint (text : String)
  | json
  | purpose (purpose : Purpose)
  deriving DecidableEq, Repr

/-- The name of a setting. -/
def Setting.name : Setting → Name
  | config _ => .config
  | searchRoot _ => .searchRoot
  | property _ _ => .property
  | currentHome _ => .currentHome
  | timeout _ => .timeout
  | noDefaults => .noDefaults
  | constraint _ => .constraint
  | json => .json
  | purpose _ => .purpose

namespace Name

/-- The setting's long option. -/
def long? : Name → Option String
  | config => some "config"
  | searchRoot => some "search-root"
  | currentHome => some "current-java-home"
  | timeout => some "timeout-ms"
  | noDefaults => some "no-defaults"
  | constraint => some "constraint"
  | json => some "json"
  | property | purpose => none

/-- The setting's short option. -/
def short? : Name → Option Char
  | property => some 'P'
  | _ => none

/-- The setting of a flag; the other settings take a value. -/
def flag? : Name → Option Setting
  | noDefaults => some .noDefaults
  | json => some .json
  | _ => none

/-- Whether a setting may be given several times. -/
def isRepeatable : Name → Bool
  | searchRoot | property => true
  | _ => false

/-- Reads a path, which may not be empty. -/
def readPath (f : Path → Setting) (s : String) : Except UsageFault Setting :=
  if s = "" then .error .missingValue else .ok (f ⟨s⟩)

/-- Reads the value of a setting. -/
def read (name : Name) (s : String) : Except UsageFault Setting :=
  match name with
  | config => readPath .config s
  | searchRoot => readPath .searchRoot s
  | currentHome => readPath .currentHome s
  | property =>
    match parseProperty s with
    | .ok (key, value) => .ok (.property key value)
    | .error _ => .error .unreadableValue
  | timeout =>
    match Text.Decimal.readSigned64? s.toList with
    | some n => .ok (.timeout n)
    | none => .error .unreadableValue
  | purpose =>
    match Purpose.parse s with
    | .ok p => .ok (.purpose p)
    | .error _ => .error .unreadableValue
  | constraint => .ok (.constraint s)
  | noDefaults | json => .error .needlessValue

/-- The settings that may be given before and after the command. -/
def globals : List Name :=
  [config, searchRoot, property, currentHome, timeout, noDefaults]

end Name

end JavaHomes.CommandLine
