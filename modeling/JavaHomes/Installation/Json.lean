import JavaHomes.Json.Record
import JavaHomes.Requirement
import JavaHomes.Version.Json

/-!
Installations in JSON: records of home, vendor, version, bitness and the mark of the current home.
-/

namespace JavaHomes

/-- A bitness as a value. -/
def Bitness.toJson (b : Bitness) : Json :=
  .string b.name

/-- Reads a bitness. -/
def Bitness.ofJson : Json.Reader Bitness :=
  Json.choice Bitness.names

/-- A reason as a value. -/
def Origin.toJson (o : Origin) : Json :=
  .string o.name

/-- Reads a reason. -/
def Origin.ofJson : Json.Reader Origin :=
  Json.choice Origin.names

/-- A purpose as a value. -/
def Purpose.toJson (p : Purpose) : Json :=
  .string p.name

/-- Reads a purpose. -/
def Purpose.ofJson : Json.Reader Purpose :=
  Json.choice Purpose.names

/-- Reads a path. -/
def Path.ofJson : Json.Reader Path := do
  return ⟨← Json.text⟩

namespace Installation

/-- An installation as a value. -/
def toJson (i : Installation) : Json :=
  .object
    [("home", .string i.home.text),
      ("vendor", .string i.vendor),
      ("version", i.version.toJson),
      ("bitness", i.bitness.toJson),
      ("isCurrent", .bool i.isCurrent)]

/-- The shape of an installation. No field may be left out. -/
def shape : Json.Shape Installation where
  fields :=
    [Json.field "home" Path.ofJson fun a i => { i with home := a },
      Json.field "vendor" Json.text fun a i => { i with vendor := a },
      Json.field "version" Version.ofJson fun a i => { i with version := a },
      Json.field "bitness" Bitness.ofJson fun a i => { i with bitness := a },
      Json.field "isCurrent" Json.boolean fun a i => { i with isCurrent := a }]
  initial := ⟨⟨""⟩, "", ⟨0, 0, 0⟩, .bits64, false⟩
  complete := true

/-- Reads an installation. -/
def ofJson : Json.Reader Installation :=
  Json.record shape

end Installation

end JavaHomes
