import JavaHomes.CommandLine.Arguments
import JavaHomes.Config.Environment

/-!
Options: what the settings of a command line mean together, and the configuration that they lead to.
-/

namespace JavaHomes.CommandLine

/-- The options that all commands share. -/
structure Options where
  config : Option Path := none
  searchRoots : List Path := []
  properties : List (String × String) := []
  currentHome : Option Path := none
  timeout : Option Nat := none
  noDefaults : Bool := false
  deriving DecidableEq, Repr

/-- The options after one more setting. -/
def Options.apply (o : Options) : Setting → Options
  | .config file => { o with config := some file }
  | .searchRoot root => { o with searchRoots := o.searchRoots ++ [root] }
  | .property key value => { o with properties := o.properties ++ [(key, value)] }
  | .currentHome home => { o with currentHome := some home }
  | .timeout millis => { o with timeout := some millis }
  | .noDefaults => { o with noDefaults := true }
  | _ => o

/-- A command with its own arguments. -/
inductive Command where
  | list (constraint : Option String) (json : Bool)
  | resolve (purpose : Purpose) (json : Bool)
  | schema
  deriving DecidableEq, Repr

namespace Arguments

/-- The settings that count: a setting behind the command replaces all of its name before it. -/
def effective (a : Arguments) : List Setting :=
  (a.before.filter fun s => a.behind.all fun r => r.name != s.name) ++ a.behind

/-- The options. -/
def options (a : Arguments) : Options :=
  a.effective.foldl Options.apply {}

/-- The constraint that is given, if any. -/
def constraint? (a : Arguments) : Option String :=
  a.behind.findSome? fun
    | .constraint s => some s
    | _ => none

/-- The purpose that is given, if any. -/
def purpose? (a : Arguments) : Option Purpose :=
  a.behind.findSome? fun
    | .purpose p => some p
    | _ => none

/-- The command. -/
def toCommand (a : Arguments) : Except UsageFault Command :=
  let json := a.behind.contains .json
  match a.command with
  | .list => .ok (.list a.constraint? json)
  | .resolve =>
    match a.purpose? with
    | some p => .ok (.resolve p json)
    | none => .error .missingArgument
  | .schema => .ok .schema

end Arguments

/-- A command line that has been understood. -/
structure Invocation where
  command : Command
  options : Options
  deriving DecidableEq, Repr

/-- Reads the words of a command line. -/
def Invocation.ofWords (words : List String) : Except UsageFault Invocation := do
  let a ← Arguments.ofWords words
  return { command := ← a.toCommand, options := a.options }

namespace Options

/-- A configuration with the options put on top of it. -/
def layer (o : Options) (base : Config) : Config :=
  let c : Config :=
    { base with
      roots := base.roots ++ o.searchRoots
      currentHome := o.currentHome.or base.currentHome
      detectsCurrent := base.detectsCurrent && !o.noDefaults
      probe := { base.probe with timeoutMillis := o.timeout.getD base.probe.timeoutMillis } }
  o.properties.foldl (fun c (key, value) => c.setProperty key value) c

/-- The configuration that the options lead to. It has to hold usable settings. -/
def configure (t : FileTree) (env : Environment) (o : Options) : Except ConfigFault Config := do
  let base ← Config.obtain t env o.config (!o.noDefaults)
  let c := o.layer base
  c.validate
  return c

end Options

end JavaHomes.CommandLine
