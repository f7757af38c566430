import JavaHomes.Config.Basic
import JavaHomes.Selection

/-!
The service: everything that is needed to answer requests under one configuration.
-/

namespace JavaHomes

/-- A prober that starts launchers, as the settings have it. -/
def ProbeConfig.prober (c : ProbeConfig) : Except ConfigFault Prober :=
  match VendorTable.ofPatterns c.vendors with
  | .ok vendors => .ok (Launcher.probe c.timeout vendors)
  | .error vendor => .error (.vendorPattern vendor)

/-- The search space of a configuration. The current home is the configured one, or else the one
that the environment's search path leads to if it is to be looked for. -/
def Config.searchSpace (t : FileTree) (env : Environment) (c : Config) : SearchSpace :=
  let current := c.currentHome.or (if c.detectsCurrent then Home.detect? t env else none)
  SearchSpace.withCurrent t ⟨c.roots, c.hints, none⟩ current

/-- A prober, a registry, and what is requested for each purpose. -/
structure Service where
  prober : Prober
  registry : Registry
  build : Requirement
  test : Requirement

namespace Service

/-- The service of a configuration around a given prober. -/
def withProber (t : FileTree) (env : Environment) (c : Config) (prober : Prober) :
    Except ConfigFault Service := do
  let build ← c.requirement .build
  let test ← c.requirement .test
  return { prober, registry := { space := c.searchSpace t env }, build, test }

/-- The service of a configuration that starts launchers. -/
def ofConfig (t : FileTree) (env : Environment) (c : Config) : Except ConfigFault Service := do
  let prober ← c.probe.prober
  withProber t env c prober

/-- The request for a purpose. -/
def requirement (s : Service) : Purpose → Requirement
  | .build => s.build
  | .test => s.test

end Service

end JavaHomes
