import JavaHomes.Json.Basic
import JavaHomes.Json.Reader
import JavaHomes.Version.Constraint

/-!
Versions and constraints in JSON: strings that hold their text.
-/

namespace JavaHomes

/-- A version as a value. -/
def Version.toJson (v : Version) : Json :=
  .string v.text

/-- Reads a version. -/
def Version.ofJson : Json.Reader Version :=
  Json.meaning Version.parse?

/-- A constraint as a value. -/
def Constraint.toJson (c : Constraint) : Json :=
  .string c.text

/-- Reads a constraint. -/
def Constraint.ofJson : Json.Reader Constraint :=
  Json.meaning fun s => (Constraint.parse s).toOption

end JavaHomes
