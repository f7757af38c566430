import JavaHomes.CommandLine.Options
import JavaHomes.CommandLine.Table
import JavaHomes.Config.Schema
import JavaHomes.FileTree.Edit
import JavaHomes.Service

/-!
Running a command line: what it prints and which code it exits with.
-/

namespace JavaHomes.CommandLine

/-- What a run leaves behind: exit code and the text on both streams. -/
structure Result where
  code : Nat
  stdout : String := ""
  stderr : String := ""
  deriving DecidableEq, Repr

namespace Result

/-- A run that went well. -/
def success (stdout : String) : Result :=
  { code := 0, stdout }

/-- A run that failed. -/
def failure (message : String) : Result :=
  { code := 1, stderr := "Error: " ++ message ++ "\n" }

/-- A run whose words were not understood, or asked for help. -/
def usage : UsageFault → Result
  | .help => { code := 0 }
  | .version => { code := 0, stdout := "jvmscope 0.1.0\n" }
  | _ => { code := 2 }

end Result

/-- A run that goes well or fails with a message. -/
def Result.ofExcept : Except String String → Result
  | .ok stdout => .success stdout
  | .error message => .failure message

/-- The row of an installation. -/
def row (i : Installation) : List String :=
  [i.version.text, i.vendor, i.bitness.text, if i.isCurrent then "*" else "", i.home.text]

/-- The heading of the table. -/
def heading : List String :=
  ["Version", "Vendor", "Arch", "Current", "Home"]

/-- The line about what happened to the candidates; `elapsed` is the time that it took. -/
def summaryLine (s : Summary) (elapsed : String) : String :=
  toString s.candidates ++ " candidates, " ++ toString s.installations ++ " usable, " ++
    toString s.failed ++ " failed (" ++ toString s.timedOut ++ " timed out) in " ++ elapsed ++ "\n"

/-- The table of some installations. -/
def table (all : List Installation) : String :=
  if all.isEmpty then "No Java installations found.\n"
  else Table.render (heading :: all.map row) ++ "\n"

/-- What is printed about the installations that a constraint admits. The constraint is read before
anything is searched. -/
def listText (t : FileTree) (env : Environment) (elapsed : String) (c : Config)
    (constraint : Option String) (json : Bool) : Except String String := do
  let constraint ← (constraint.mapM Constraint.parse).mapError VersionFault.message
  let service ← (Service.ofConfig t env c).mapError ConfigFault.message
  let (p, _) := service.registry.query t service.prober .inTurn
  let all := Installation.byVersion constraint p.installations
  if json then return (Json.list (all.map Installation.toJson)).pretty ++ "\n"
  else return table all ++ summaryLine p.summary elapsed

/-- What is printed about the installation for a purpose. -/
def homeText (t : FileTree) (env : Environment) (c : Config) (purpose : Purpose) (json : Bool) :
    Except String String := do
  let service ← (Service.ofConfig t env c).mapError ConfigFault.message
  match (service.registry.select t service.prober .inTurn (service.requirement purpose)).1 with
  | some (.ok i) => return (if json then i.toJson.pretty else i.home.text) ++ "\n"
  | some (.error fault) => throw fault.message
  | none => throw "the probe broke off"

/-- Carries out a command under a configuration. -/
def Command.run (t : FileTree) (env : Environment) (elapsed : String) (c : Config) :
    Command → Except String String
  | .list constraint json => listText t env elapsed c constraint json
  | .resolve purpose json => homeText t env c purpose json
  | .schema => .ok (Config.Schema.document.pretty ++ "\n")

/-- Carries out what a command line says. -/
def Invocation.run (t : FileTree) (env : Environment) (elapsed : String) (i : Invocation) :
    Result :=
  .ofExcept do
    let c ← (i.options.configure t env).mapError ConfigFault.message
    i.command.run t env elapsed c

/-- Runs a command line. The directory for logs is made first. -/
def run (t : FileTree) (env : Environment) (elapsed : String) (words : List String) : Result :=
  match Invocation.ofWords words with
  | .error fault => .usage fault
  | .ok i => i.run (t.makeDirectory env.logDirectory).1 env elapsed

end JavaHomes.CommandLine
