import JavaHomes.CommandLine.Setting

/-!
The words of a command line as settings. A command divides the words into two levels; on each of
them options, flags and values are read from left to right. The value of an option counts as read
only when the next option comes or the level ends, so an unknown word in between is the first fault.
-/

namespace JavaHomes.CommandLine

/-- The commands by name. -/
inductive CommandName where
  | list
  | resolve
  | schema
  deriving DecidableEq, Repr

/-- The command that a word names. -/
def CommandName.ofWord? : String → Option CommandName
  | "list" => some .list
  | "resolve" => some .resolve
  | "schema" => some .schema
  | _ => none

/-- Whether a word may stand where a command is expected. -/
def isCommandWord (word : String) : Bool :=
  (CommandName.ofWord? word).isSome || word == "help"

/-- What may be given on one level of a command line. -/
structure Level where
  names : List Name
  positional : List Name := []
  /-- Whether this is the level before the command. -/
  isTop : Bool := false

namespace Level

/-- The level before the command. -/
def top : Level :=
  { names := Name.globals, isTop := true }

/-- The level behind a command. -/
def behind : CommandName → Level
  | .list => { names := .constraint :: .json :: Name.globals }
  | .resolve => { names := .json :: Name.globals, positional := [.purpose] }
  | .schema => { names := Name.globals }

/-- The name of a long option. -/
def long? (level : Level) (s : String) : Option Name :=
  level.names.find? fun n => n.long? == some s

/-- The name of a short option. -/
def short? (level : Level) (c : Char) : Option Name :=
  level.names.find? fun n => n.short? == some c

end Level

/-- A setting that is being read: its name, and its value once there is one. -/
structure Pending where
  name : Name
  value : Option String

/-- What has been read of a level. -/
structure Progress where
  settings : List Setting := []
  pending : Option Pending := none
  /-- Positional arguments so far. -/
  count : Nat := 0
  /-- Whether only positional arguments follow. -/
  plain : Bool := false

namespace Progress

/-- Whether the next word is the value of an option. -/
def awaitsValue (p : Progress) : Bool :=
  p.pending.any fun q => q.value.isNone

/-- Adds a setting. Only some settings may be given again. -/
def add (p : Progress) (s : Setting) : Progress :=
  { p with settings := p.settings ++ [s] }

/-- Whether a setting has been given that may be given only once. -/
def isTaken (p : Progress) (name : Name) : Bool :=
  !name.isRepeatable && p.settings.any fun s => s.name == name

/-- Reads the value of a setting and adds it. -/
def give (p : Progress) (name : Name) (value : String) : Except UsageFault Progress :=
  if p.isTaken name then .error .repeated else (name.read value).map p.add

/-- Reads the setting that is pending. -/
def settle (p : Progress) : Except UsageFault Progress :=
  match p.pending with
  | none => .ok p
  | some ⟨_, none⟩ => .error .missingValue
  | some ⟨name, some value⟩ => { p with pending := none }.give name value

/-- An option, with the value that is attached to it, if any. -/
def option (p : Progress) (name : Name) (attached : Option String) :
    Except UsageFault Progress := do
  match name.flag?, attached with
  | some _, some _ => throw .needlessValue
  | some flag, none =>
    let p ← p.settle
    if p.isTaken name then throw .repeated
    return p.add flag
  | none, some value =>
    let p ← p.settle
    p.give name value
  | none, none =>
    let p ← p.settle
    return { p with pending := some ⟨name, none⟩ }

/-- Asks for help or for the version. -/
def inform (p : Progress) (fault : UsageFault) (attached : Option String) :
    Except UsageFault Progress := do
  if attached.isSome then throw .needlessValue
  let _ ← p.settle
  throw fault

/-- A long option, without its two hyphens. -/
def long (level : Level) (p : Progress) (s : List Char) : Except UsageFault Progress :=
  let (word, attached) :=
    match Text.splitOnce ['='] s with
    | some (word, value) => (String.ofList word, some (String.ofList value))
    | none => (String.ofList s, none)
  match level.long? word with
  | some name => p.option name attached
  | none =>
    if word = "help" then p.inform .help attached
    else if word = "version" ∧ level.isTop then p.inform .version attached
    else .error .unknownArgument

/-- A word of short options, without its hyphen. What follows the letter of an option in the same
word is its value, perhaps behind an equality sign. -/
def short (level : Level) (p : Progress) (s : List Char) : Except UsageFault Progress :=
  match s with
  | [] => .ok p
  | c :: rest =>
    match level.short? c with
    | some name =>
      match rest with
      | [] => p.option name none
      | '=' :: value => p.option name (some (String.ofList value))
      | value => p.option name (some (String.ofList value))
    | none =>
      if c = 'h' then p.inform .help none
      else if c = 'V' ∧ level.isTop then p.inform .version none
      else .error .unknownArgument

/-- A word that is no option: a positional argument, if there is one left. -/
def word (level : Level) (p : Progress) (s : String) : Except UsageFault Progress := do
  match level.positional[p.count]? with
  | some name =>
    let p ← p.settle
    return { p with pending := some ⟨name, some s⟩, count := p.count + 1 }
  | none =>
    if level.isTop && !(p.plain && isCommandWord s) then throw .unknownCommand
    else throw .unknownArgument

/-- One word that is no command. -/
def step (level : Level) (p : Progress) (s : String) : Except UsageFault Progress :=
  if p.plain then p.word level s
  else
    match s.toList with
    | ['-', '-'] => .ok { p with plain := true }
    | '-' :: '-' :: rest => p.long level rest
    | '-' :: c :: rest => p.short level (c :: rest)
    | _ =>
      match p.pending with
      | some ⟨name, none⟩ => .ok { p with pending := some ⟨name, some s⟩ }
      | _ => p.word level s

end Progress

/-- The answer to the command `help`, which may name one command. -/
def helpFor : List String → UsageFault
  | [] => .help
  | [word] => if isCommandWord word then .help else .unknownCommand
  | _ => .unknownCommand

/-- The settings of the level behind a command. -/
def readLevel (level : Level) (p : Progress) : List String → Except UsageFault (List Setting)
  | [] => p.settle.map Progress.settings
  | s :: rest => do
    let p ← p.step level s
    readLevel level p rest

/-- What the words of a command line say: the command and the settings before and behind it. -/
structure Arguments where
  command : CommandName
  before : List Setting
  behind : List Setting
  deriving DecidableEq, Repr

/-- Reads the words behind a command, whose faults go before those of a pending value in front of
it. -/
def readBehind (command : CommandName) (p : Progress) (rest : List String) :
    Except UsageFault Arguments := do
  let behind ← readLevel (.behind command) {} rest
  if command = .resolve ∧ ∀ s ∈ behind, s.name ≠ .purpose then throw .missingArgument
  let p ← p.settle
  return { command, before := p.settings, behind }

/-- Reads the words from the level before the command on. A command may not stand where a value is
awaited. -/
def readTop (p : Progress) : List String → Except UsageFault Arguments
  | [] => do
    let p ← p.settle
    if p.settings.isEmpty then throw .helpForMissingCommand
    else throw .missingCommand
  | s :: rest =>
    if p.plain || p.awaitsValue then do
      let p ← p.step .top s
      readTop p rest
    else if s = "help" then .error (helpFor rest)
    else
      match CommandName.ofWord? s with
      | some command => readBehind command p rest
      | none => do
        let p ← p.step .top s
        readTop p rest

/-- Reads the words of a command line. -/
def Arguments.ofWords (words : List String) : Except UsageFault Arguments :=
  readTop {} words

end JavaHomes.CommandLine
