import JavaHomes.Path
import JavaHomes.Version.Constraint

/-!
Java homes as they pass through a search: a candidate is a directory that looks like a home, an
installation is a home whose launcher has told vendor, version and bitness.
-/

namespace JavaHomes

/-- The path of the launcher inside a home. -/
def Path.launcher (home : Path) : Path :=
  (home.join "bin").join "java"

/-- Where a home was found, from the weakest to the strongest reason. -/
inductive Origin where
  | searchPath
  | environment
  | explicit
  | current
  deriving DecidableEq, Repr

namespace Origin

/-- The strength of a reason. -/
def rank : Origin → Nat
  | .searchPath => 0
  | .environment => 1
  | .explicit => 2
  | .current => 3

instance : Ord Origin := ⟨fun a b => compare a.rank b.rank⟩

/-- The stronger of two reasons. -/
def strongest (a b : Origin) : Origin :=
  if a.rank ≤ b.rank then b else a

/-- The short name of a reason. -/
def label : Origin → String
  | .searchPath => "search-path"
  | .environment => "environment"
  | .explicit => "override"
  | .current => "current"

/-- All reasons under their written names. -/
def names : List (String × Origin) :=
  [("search_path_hint", .searchPath), ("environment_variable", .environment),
    ("explicit_override", .explicit), ("current_jvm", .current)]

/-- The written name of a reason. -/
def name : Origin → String
  | .searchPath => "search_path_hint"
  | .environment => "environment_variable"
  | .explicit => "explicit_override"
  | .current => "current_jvm"

end Origin

/-- A directory that looks like a home and has not been asked yet. -/
structure Candidate where
  home : Path
  origin : Origin
  deriving DecidableEq, Repr

namespace Candidate

/-- The launcher of a candidate. -/
def launcher (c : Candidate) : Path :=
  c.home.launcher

/-- Whether the candidate is the home that the host itself runs on. -/
def isCurrent (c : Candidate) : Bool :=
  c.origin == .current

end Candidate

/-- The width of a machine word. -/
inductive Bitness where
  | bits32
  | bits64
  deriving DecidableEq, Repr

namespace Bitness

/-- The bitness in words. -/
def text : Bitness → String
  | .bits32 => "32-bit"
  | .bits64 => "64-bit"

/-- The bitness as a number. -/
def name : Bitness → String
  | .bits32 => "32"
  | .bits64 => "64"

/-- Both values under their written names. -/
def names : List (String × Bitness) :=
  [("32", .bits32), ("64", .bits64)]

end Bitness

/-- A usable Java installation. -/
structure Installation where
  home : Path
  vendor : String
  version : Version
  bitness : Bitness
  isCurrent : Bool
  deriving DecidableEq, Repr

namespace Installation

/-- The launcher of an installation. -/
def launcher (i : Installation) : Path :=
  i.home.launcher

/-- One line about an installation. -/
def text (i : Installation) : String :=
  i.vendor ++ " " ++ i.version.text ++ " (" ++ i.bitness.text ++ ") at " ++ i.home.text

end Installation

end JavaHomes
