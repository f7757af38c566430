import JavaHomes.Duration
import JavaHomes.Installation

/-!
What a caller asks for, and why a search can fail to deliver it.
-/

namespace JavaHomes

/-- What the chosen installation is for. -/
inductive Purpose where
  | build
  | test
  deriving DecidableEq, Repr

namespace Purpose

/-- The name of a purpose. -/
def name : Purpose → String
  | .build => "build"
  | .test => "test"

/-- Both purposes under their names. -/
def names : List (String × Purpose) :=
  [("build", .build), ("test", .test)]

/-- Reads a purpose in any case of its letters; compiling is building. The fault is the word that
was not recognised, in lower case. -/
def parse (s : String) : Except String Purpose :=
  match Text.lowerAscii s with
  | "build" | "compile" => .ok .build
  | "test" => .ok .test
  | word => .error word

/-- The wording of the fault of `parse`. -/
def unknownMessage (word : String) : String :=
  "unknown purpose: " ++ word

end Purpose

/-- A request for an installation: an explicit home, if there is one, decides alone. -/
structure Requirement where
  purpose : Purpose
  constraint : Option Constraint := none
  override : Option Path := none
  deriving DecidableEq, Repr

/-- Why a home turned out to be no installation. -/
inductive ProbeFailure where
  | notExecutable (launcher : Path)
  | timeout (launcher : Path) (limit : Duration)
  | unparsableOutput (launcher : Path)
  deriving DecidableEq, Repr

namespace ProbeFailure

/-- The launcher that failed. -/
def launcher : ProbeFailure → Path
  | .notExecutable launcher => launcher
  | .timeout launcher _ => launcher
  | .unparsableOutput launcher => launcher

/-- Whether the launcher ran out of time. -/
def isTimeout : ProbeFailure → Bool
  | .timeout .. => true
  | _ => false

/-- The wording of a failure. -/
def message : ProbeFailure → String
  | .notExecutable launcher => "launcher " ++ launcher.text ++ " is missing or not executable"
  | .timeout launcher limit =>
    "launcher " ++ launcher.text ++ " did not exit within " ++ limit.text
  | .unparsableOutput launcher => "unrecognised version output from " ++ launcher.text

end ProbeFailure

/-- Why a request found no installation. -/
inductive SelectionFailure where
  | noneFound (purpose : Purpose) (constraint : Option Constraint)
  | overrideInvalid (path : Path) (reason : ProbeFailure)
  | unsatisfiable (constraint : Constraint)
  deriving DecidableEq, Repr

/-- The wording of a failure. -/
def SelectionFailure.message : SelectionFailure → String
  | .noneFound purpose none => "no Java installation found for " ++ purpose.name
  | .noneFound purpose (some c) =>
    "no Java installation found for " ++ purpose.name ++ " matching " ++ c.text
  | .overrideInvalid path reason =>
    "explicit Java home " ++ path.text ++ " is not usable: " ++ reason.message
  | .unsatisfiable c => "version constraint " ++ c.text ++ " can never be satisfied"

end JavaHomes
