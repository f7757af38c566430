import JavaHomes.Duration
import JavaHomes.FileTree.Basic
import JavaHomes.Json.Reader
import JavaHomes.Requirement
import JavaHomes.Sorted
import JavaHomes.Vendor

/-!
The configuration of a search, and what it says for each purpose. Build properties go before the
fields of the configuration, and blank texts count as absent.
-/

namespace JavaHomes

/-- How launchers are probed. -/
structure ProbeConfig where
  /-- The time that a launcher has, in milliseconds. -/
  timeoutMillis : Nat := 10000
  /-- The number of launchers that may run at the same time. -/
  parallel : Nat := 4
  vendors : List VendorPattern := VendorPattern.builtin
  deriving DecidableEq, Repr

/-- The time that a launcher has; never none at all. -/
def ProbeConfig.timeout (c : ProbeConfig) : Duration :=
  .ofMillis (max c.timeoutMillis 1)

/-- The configuration of a search. Hints and properties are ascending by their names. -/
structure Config where
  roots : List Path := []
  hints : List (String × Path) := []
  properties : List (String × String) := []
  /-- The home that the host runs on, if the host knows it. -/
  currentHome : Option Path := none
  /-- Whether to look for that home on the search path otherwise. -/
  detectsCurrent : Bool := true
  buildConstraint : Option String := none
  testConstraint : Option String := none
  probe : ProbeConfig := {}
  deriving DecidableEq, Repr

/-- Why a configuration cannot be used. -/
inductive ConfigFault where
  | unreadable (fault : FileTree.Fault)
  | json (fault : Json.Fault)
  /-- The constraint that `source`, a property or a field, holds. -/
  | constraint (source : String) (fault : VersionFault)
  | vendorPattern (vendor : String)
  | noProbes
  | noTime
  deriving DecidableEq, Repr

/-- The wording of a fault in JSON text. -/
def Json.Fault.message : Json.Fault → String
  | .malformed => "the text is not well formed"
  | .unsuitable => "a value does not fit its place"
  | .unfinished => "the text ends too early"

/-- The wording of a fault. -/
def ConfigFault.message : ConfigFault → String
  | .unreadable fault => "I/O error: " ++ fault.message
  | .json fault => "JSON serialization/deserialization error: " ++ fault.message
  | .constraint source fault =>
    "Invalid version constraint for " ++ source ++ ": " ++ fault.message
  | .vendorPattern vendor =>
    "Invalid output pattern for vendor " ++ vendor ++ ": the pattern is not well formed"
  | .noProbes => "Configuration error: probe.maxParallel must be at least 1"
  | .noTime => "Configuration error: probe.timeoutMs must be at least 1"

namespace Purpose

/-- The property that names a home for the purpose. -/
def homeProperty : Purpose → String
  | .build => "buildJavaHome"
  | .test => "testJavaHome"

/-- The property that restricts the version for the purpose. -/
def versionProperty : Purpose → String
  | .build => "buildJavaVersion"
  | .test => "testJavaVersion"

/-- The written name of the field that restricts the version for the purpose. -/
def constraintField : Purpose → String
  | .build => "buildConstraint"
  | .test => "testConstraint"

end Purpose

namespace Config

/-- A text without surrounding white space, unless nothing is left of it. -/
def notBlank? (s : String) : Option String :=
  if Text.isBlankText s.toList then none else some (Text.trimString s)

/-- The value of a property. -/
def property? (c : Config) (name : String) : Option String :=
  (Sorted.get? name c.properties).bind notBlank?

/-- Sets a property, over the value that it had. -/
def setProperty (c : Config) (name value : String) : Config :=
  { c with properties := Sorted.insertKey name value c.properties }

/-- The field that restricts the version for a purpose. -/
def constraintText (c : Config) : Purpose → Option String
  | .build => c.buildConstraint
  | .test => c.testConstraint

/-- The text that restricts the version for a purpose, with the name of the place that it comes
from. -/
def constraintSource? (c : Config) (p : Purpose) : Option (String × String) :=
  match c.property? p.versionProperty with
  | some text => some (p.versionProperty, text)
  | none => ((c.constraintText p).bind notBlank?).map fun text => (p.constraintField, text)

/-- The constraint for a purpose. -/
def constraint (c : Config) (p : Purpose) : Except ConfigFault (Option Constraint) :=
  match c.constraintSource? p with
  | none => .ok none
  | some (source, text) =>
    match Constraint.parse text with
    | .ok k => .ok (some k)
    | .error fault => .error (.constraint source fault)

/-- The home that is to be used for a purpose whatever else there is. -/
def override? (c : Config) (p : Purpose) : Option Path :=
  (c.property? p.homeProperty).map Path.mk

/-- The request for a purpose. -/
def requirement (c : Config) (p : Purpose) : Except ConfigFault Requirement :=
  (c.constraint p).map fun constraint => ⟨p, constraint, c.override? p⟩

/-- Refuses settings under which no probe could ever succeed. -/
def validate (c : Config) : Except ConfigFault Unit :=
  if c.probe.parallel = 0 then .error .noProbes
  else if c.probe.timeoutMillis = 0 then .error .noTime
  else .ok ()

end Config

end JavaHomes
