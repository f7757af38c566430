import JavaHomes.Config.Json
import JavaHomes.Environment
import JavaHomes.Pattern

/-!
The configuration that an environment suggests: the usual directories, and the variables that
conventionally name a home.
-/

namespace JavaHomes

namespace Config

/-- What the names of the variables look like that conventionally name a home: `JAVA_HOME`, `JDK17`
or `JDK17_HOME`, `JAVA_HOME_17` or `JAVA_HOME_17_X64`. -/
def hintPattern : Pattern :=
  (Pattern.ofString? "^(JAVA_HOME|JDK\\d+(_HOME)?|JAVA_HOME_\\d+(_[A-Z0-9]+)?)$").get
    (by decide +kernel)

/-- Whether a variable conventionally names a home. -/
def isHintName (name : String) : Bool :=
  hintPattern.occursIn name

/-- The hint that a variable gives. -/
def hint? (v : String × String) : Option (String × Path) :=
  if isHintName v.1 then (notBlank? v.2).map fun text => (v.1, ⟨text⟩) else none

/-- The hints that some variables give; of two for one name the last one counts. -/
def hintsOf (assignments : List (String × String)) : List (String × Path) :=
  (assignments.filterMap hint?).foldl (fun map (k, p) => Sorted.insertKey k p map) []

/-- The directories in which installations usually lie. -/
def usualRoots (env : Environment) : List Path :=
  [⟨"/usr/lib/jvm"⟩, ⟨"/opt/java"⟩] ++
    match env.home? with
    | none => []
    | some home =>
      [home.join ".sdkman/candidates/java", home.join ".jdks", home.join ".gradle/jdks"]

/-- The configuration that an environment suggests. -/
def ofEnvironment (env : Environment) : Config :=
  { roots := usualRoots env, hints := hintsOf env.assignments }

/-- The configuration of a file, if one is named; otherwise what the environment suggests, or
nothing at all. -/
def obtain (t : FileTree) (env : Environment) (file : Option Path) (useDefaults : Bool) :
    Except ConfigFault Config :=
  match file with
  | some p => load t p
  | none => .ok (if useDefaults then ofEnvironment env else {})

end Config

/-- The directory for logs. -/
def Environment.logDirectory (env : Environment) : Path :=
  ((env.home?).getD ⟨"."⟩).join ".jvmscope/logs"

end JavaHomes
