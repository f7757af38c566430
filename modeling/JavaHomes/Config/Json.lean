import JavaHomes.Config.Basic
import JavaHomes.Installation.Json
import JavaHomes.Text.Utf8

/-!
Configurations in JSON. Every field may be left out and then has its default.
-/

namespace JavaHomes

namespace VendorPattern

/-- A line of a vendor table as a value. -/
def toJson (p : VendorPattern) : Json :=
  .object [("vendor", .string p.vendor), ("pattern", .string p.pattern)]

/-- The shape of a line of a vendor table. -/
def shape : Json.Shape VendorPattern where
  fields :=
    [Json.field "vendor" Json.text fun a p => { p with vendor := a },
      Json.field "pattern" Json.text fun a p => { p with pattern := a }]
  initial := ⟨"", ""⟩
  complete := true

/-- Reads a line of a vendor table. -/
def ofJson : Json.Reader VendorPattern :=
  Json.record shape

end VendorPattern

namespace ProbeConfig

/-- The probe settings as a value. -/
def toJson (c : ProbeConfig) : Json :=
  .object
    [("timeoutMs", .natural c.timeoutMillis),
      ("maxParallel", .natural c.parallel),
      ("vendors", .list (c.vendors.map VendorPattern.toJson))]

/-- The shape of the probe settings. -/
def shape : Json.Shape ProbeConfig where
  fields :=
    [Json.field "timeoutMs" Json.natural64 fun a c => { c with timeoutMillis := a },
      Json.field "maxParallel" Json.natural64 fun a c => { c with parallel := a },
      Json.field "vendors" (Json.listOf VendorPattern.ofJson) fun a c => { c with vendors := a }]
  initial := {}
  complete := false

/-- Reads probe settings. -/
def ofJson : Json.Reader ProbeConfig :=
  Json.record shape

end ProbeConfig

namespace Config

/-- Reads an object whose keys are all values of one kind. A key that is given twice keeps its last
value. -/
def mapOf (value : Json.Reader α) : Json.Reader (List (String × α)) := do
  let all ← Json.membersOf value
  return all.foldl (fun map (k, a) => Sorted.insertKey k a map) []

/-- A configuration as a value. -/
def toJson (c : Config) : Json :=
  .object
    [("searchRoots", Json.strings (c.roots.map Path.text)),
      ("envHints", .object (c.hints.map fun (k, p) => (k, .string p.text))),
      ("properties", .object (c.properties.map fun (k, v) => (k, .string v))),
      ("currentJavaHome", Json.optional (fun p => .string p.text) c.currentHome),
      ("detectCurrentJvm", .bool c.detectsCurrent),
      ("buildConstraint", Json.optional .string c.buildConstraint),
      ("testConstraint", Json.optional .string c.testConstraint),
      ("probe", c.probe.toJson)]

/-- The shape of a configuration. -/
def shape : Json.Shape Config where
  fields :=
    [Json.field "searchRoots" (Json.listOf Path.ofJson) fun a c => { c with roots := a },
      Json.field "envHints" (mapOf Path.ofJson) fun a c => { c with hints := a },
      Json.field "properties" (mapOf Json.text) fun a c => { c with properties := a },
      Json.field "currentJavaHome" (Json.orNull Path.ofJson) fun a c => { c with currentHome := a },
      Json.field "detectCurrentJvm" Json.boolean fun a c => { c with detectsCurrent := a },
      Json.field "buildConstraint" (Json.orNull Json.text) fun a c =>
        { c with buildConstraint := a },
      Json.field "testConstraint" (Json.orNull Json.text) fun a c =>
        { c with testConstraint := a },
      Json.field "probe" ProbeConfig.ofJson fun a c => { c with probe := a }]
  initial := {}
  complete := false

/-- Reads a configuration. -/
def ofJson : Json.Reader Config :=
  Json.record shape

/-- Reads the text of a configuration. -/
def parse (s : String) : Except Json.Fault Config :=
  Json.read ofJson s

/-- Reads a configuration file, which has to hold usable settings. -/
def load (t : FileTree) (p : Path) : Except ConfigFault Config := do
  let content ← (t.read p).mapError .unreadable
  let s ← match Text.Utf8.decode? content with
    | some s => pure (String.ofList s)
    | none => throw (.unreadable .notUtf8)
  let c ← (parse s).mapError .json
  c.validate
  return c

end Config

end JavaHomes
