import JavaHomes.Config.Json

/-!
The JSON schema of the configuration file.
-/

namespace JavaHomes.Config.Schema

/-- The members of a described value: what it is for, and its type. -/
def described (description : String) (type : Json) (more : List (String × Json)) : Json :=
  .object ([("description", .string description), ("type", type)] ++ more)

/-- A text that may be absent. -/
def optionalText (description : String) : Json :=
  described description (Json.strings ["string", "null"]) [("default", .null)]

/-- A list with its default. -/
def listOf (description : String) (default : Json) (item : List (String × Json)) : Json :=
  described description (.string "array") [("default", default), ("items", .object item)]

/-- An object whose values are texts. -/
def textMap (description : String) : Json :=
  described description (.string "object")
    [("additionalProperties", .object [("type", .string "string")]), ("default", .object [])]

/-- A natural number of some format. -/
def natural (description format : String) (default : Nat) : Json :=
  described description (.string "integer")
    [("format", .string format), ("default", .natural default), ("minimum", .natural 0)]

/-- A line of a vendor table as a default, its members by name. -/
def vendorDefault (p : VendorPattern) : Json :=
  .object [("pattern", .string p.pattern), ("vendor", .string p.vendor)]

/-- The default vendor table. -/
def vendorsDefault : Json :=
  .list (({} : ProbeConfig).vendors.map vendorDefault)

/-- The default probe settings, their members by name. -/
def probeDefault : Json :=
  .object
    [("maxParallel", .natural ({} : ProbeConfig).parallel),
      ("timeoutMs", .natural ({} : ProbeConfig).timeoutMillis),
      ("vendors", vendorsDefault)]

/-- The fields of a configuration. -/
def configFields : List (String × Json) :=
  [("buildConstraint",
      optionalText "Version constraint for the build JVM, e.g. `17` or `11+`."),
    ("currentJavaHome",
      optionalText "Home of the JVM the host runs on, when the host knows it."),
    ("detectCurrentJvm",
      described "Look for `java` on `PATH` when `currentJavaHome` is not set."
        (.string "boolean") [("default", .bool ({} : Config).detectsCurrent)]),
    ("envHints",
      textMap "Named paths that may each be a JVM home (usually environment variables)."),
    ("probe",
      .object [("$ref", .string "#/$defs/ProbeConfig"), ("default", probeDefault)]),
    ("properties", textMap "Build properties, e.g. `testJavaHome` or `testJavaVersion`."),
    ("searchRoots",
      listOf "Directories whose subdirectories may be JVM homes." (.list [])
        [("type", .string "string")]),
    ("testConstraint", optionalText "Version constraint for the test JVM.")]

/-- The probe settings. -/
def probe : Json :=
  .object
    [("type", .string "object"),
      ("properties", .object
        [("maxParallel",
            natural "Number of launchers probed concurrently." "uint"
              ({} : ProbeConfig).parallel),
          ("timeoutMs",
            natural "Upper bound for one launcher invocation." "uint64"
              ({} : ProbeConfig).timeoutMillis),
          ("vendors",
            listOf "Ordered vendor table; the first pattern matching the output wins."
              vendorsDefault [("$ref", .string "#/$defs/VendorPattern")])])]

/-- A line of the vendor table. -/
def vendorPattern : Json :=
  described "One entry of the vendor table." (.string "object")
    [("properties", .object
        [("pattern",
            described
              "Regular expression applied to the `java.vendor` value and the version banner."
              (.string "string") []),
          ("vendor",
            described "Name reported for installations whose output matches."
              (.string "string") [])]),
      ("required", Json.strings ["vendor", "pattern"])]

/-- The schema. -/
def document : Json :=
  .object
    [("$schema", .string "https://json-schema.org/draft/2020-12/schema"),
      ("title", .string "JvmConfig"),
      ("type", .string "object"),
      ("properties", .object configFields),
      ("$defs", .object [("ProbeConfig", probe), ("VendorPattern", vendorPattern)])]

end JavaHomes.Config.Schema
