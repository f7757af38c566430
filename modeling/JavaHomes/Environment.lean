import JavaHomes.Path

/-!
The environment of a program: its variables, and the personal directory of the user.
-/

namespace JavaHomes

/-- The environment that a program runs in. -/
structure Environment where
  /-- The variables with their values. -/
  assignments : List (String × String) := []
  /-- The personal directory that the system has on record for the user. -/
  accountHome : Option Path := none

namespace Environment

/-- The value of a variable. When it is set more than once, the last value counts. -/
def value? (env : Environment) (name : String) : Option String :=
  (env.assignments.reverse.find? fun v => v.1 == name).map Prod.snd

/-- The personal directory: the variable, unless it is empty, and otherwise the one on record. -/
def home? (env : Environment) : Option Path :=
  match env.value? "HOME" with
  | some h => if h = "" then env.accountHome else some ⟨h⟩
  | none => env.accountHome

/-- The directories that programs are looked up in, as one text. -/
def searchPath? (env : Environment) : Option String :=
  env.value? "PATH"

end Environment

end JavaHomes
