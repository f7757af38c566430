import JavaHomes.Proofs.Probe
import JavaHomes.Proofs.Resolution
import JavaHomes.Proofs.Session
import JavaHomes.Service

/-!
Discovery as a whole. The first question to a service that starts launchers is answered with exactly
the homes that the configured roots, the configured hints or the host lead to and whose launchers
answer in time with something that can be read; each stands with what its own launcher said, and the
current home alone is marked.
-/

namespace JavaHomes

open Launcher

variable {t : FileTree} {space : SearchSpace} {limit : Duration} {vendors : VendorTable}
  {i : Installation}

/-- The installations are what the probes of the candidates find. -/
theorem Population.mem_installations_iff_probe (finish : Completion) (calls : Nat) :
    i ∈ (Population.ofSpace t (probe limit vendors) finish calls space).installations ↔
      ∃ c ∈ space.scan t, probe limit vendors 0 t c = .found i := by
  have hdistinct : (finish.order (space.scan t)).Pairwise fun a b => ¬ a.home.same b.home :=
    (finish.perm _).symm.pairwise (space.distinct_scan t) Path.not_same_symm
  rw [ofSpace, outcomesOf_eq_map fun _ => rfl,
    mem_installations_ofOutcomes hdistinct fun c i h => ((probe_eq_found 0).mp h).2.1]
  exact exists_congr fun c => and_congr_left' (finish.perm _).mem_iff

/-- The installations of a population whose launchers were started. -/
theorem Population.mem_installations_ofSpace (hspace : space.Resolved) (finish : Completion)
    (calls : Nat) :
    i ∈ (Population.ofSpace t (probe limit vendors) finish calls space).installations ↔
      (∃ origin, space.LeadsTo t origin i.home) ∧
      Answers t limit vendors i.home ⟨i.vendor, i.version, i.bitness⟩ ∧
      (i.isCurrent = true ↔ space.current = some i.home) := by
  rw [mem_installations_iff_probe]
  simp only [probe_eq_found]
  constructor
  · rintro ⟨c, hc, hanswers, hhome, hcurrent⟩
    rw [hhome, hcurrent]
    exact ⟨(SearchSpace.exists_mem_scan hspace).mp ⟨c, hc, rfl⟩, hanswers,
      SearchSpace.isCurrent_of_mem_scan hspace hc⟩
  · rintro ⟨hleads, hanswers, hcurrent⟩
    obtain ⟨c, hc, hhome⟩ := (SearchSpace.exists_mem_scan hspace).mpr hleads
    refine ⟨c, hc, hhome ▸ hanswers, hhome.symm, ?_⟩
    rw [Bool.eq_iff_iff, hcurrent, SearchSpace.isCurrent_of_mem_scan hspace hc, hhome]

namespace Config

variable {t₀ : FileTree} {env : Environment} {c : Config} {home : Path}

/-- The current home that a configuration has on a machine. It is the home that the configured path
resolves to; if no path is configured and the home is to be looked for, it is what the home that is
found on the search path resolves to. -/
inductive CurrentHome (t₀ : FileTree) (env : Environment) (c : Config) : Path → Prop
  | configured {path home : Path} : c.currentHome = some path →
      Home.resolve? t₀ path = some home → CurrentHome t₀ env c home
  | detected {path home : Path} : c.currentHome = none → c.detectsCurrent = true →
      Home.detect? t₀ env = some path → Home.resolve? t₀ path = some home →
      CurrentHome t₀ env c home

/-- The homes that a configuration leads to: those of the subdirectories of a root that can be
listed, those of the hints, and the current home. -/
inductive LeadsTo (t₀ : FileTree) (env : Environment) (c : Config) (t : FileTree) : Path → Prop
  | root {root : Path} {names : List String} {name : String} {home : Path} : root ∈ c.roots →
      t.names? root = some names → name ∈ names → t.isDirectory (root.join name) = true →
      Home.resolve? t (root.join name) = some home → LeadsTo t₀ env c t home
  | hint {name : String} {path home : Path} : (name, path) ∈ c.hints →
      Home.resolve? t path = some home → LeadsTo t₀ env c t home
  | host {home : Path} : c.CurrentHome t₀ env home → LeadsTo t₀ env c t home

end Config

namespace Service

/-- A service at work, when nobody has asked it anything yet. -/
def session (s : Service) (t : FileTree) (finish : Nat → Completion) : Session :=
  { tree := t, prober := s.prober, registry := s.registry, finish }

variable {t₀ : FileTree} {env : Environment} {c : Config} {s : Service}

theorem prober_eq_ok {probing : ProbeConfig} {prober : Prober} (h : probing.prober = .ok prober) :
    ∃ vendors, VendorTable.ofPatterns probing.vendors = .ok vendors ∧
      prober = probe probing.timeout vendors := by
  rw [ProbeConfig.prober] at h
  cases hvendors : VendorTable.ofPatterns probing.vendors with
  | error vendor =>
    rw [hvendors] at h
    cases h
  | ok vendors =>
    rw [hvendors] at h
    exact ⟨vendors, rfl, (Except.ok.inj h).symm⟩

/-- What a service around a prober is made of. -/
theorem withProber_eq_ok {prober : Prober} (h : withProber t₀ env c prober = .ok s) :
    s.prober = prober ∧ s.registry = { space := c.searchSpace t₀ env } ∧
      ∀ purpose, c.requirement purpose = .ok (s.requirement purpose) := by
  rw [withProber] at h
  cases hbuild : c.requirement .build with
  | error fault =>
    rw [hbuild] at h
    cases h
  | ok build =>
    cases htest : c.requirement .test with
    | error fault =>
      rw [hbuild, htest] at h
      cases h
    | ok test =>
      rw [hbuild, htest] at h
      rw [← Except.ok.inj h]
      refine ⟨rfl, rfl, fun purpose => ?_⟩
      cases purpose with
      | build => exact hbuild
      | test => exact htest

/-- What a service that starts launchers is made of. -/
theorem ofConfig_eq_ok (hs : ofConfig t₀ env c = .ok s) :
    ∃ vendors, VendorTable.ofPatterns c.probe.vendors = .ok vendors ∧
      s.prober = probe c.probe.timeout vendors ∧
      s.registry = { space := c.searchSpace t₀ env } ∧
      ∀ purpose, c.requirement purpose = .ok (s.requirement purpose) := by
  rw [ofConfig] at hs
  cases hprober : c.probe.prober with
  | error fault =>
    rw [hprober] at hs
    cases hs
  | ok prober =>
    rw [hprober] at hs
    obtain ⟨vendors, hvendors, hprobe⟩ := prober_eq_ok hprober
    obtain ⟨hsprober, hregistry, hrequirement⟩ := withProber_eq_ok hs
    exact ⟨vendors, hvendors, hsprober.trans hprobe, hregistry, hrequirement⟩

theorem resolved_searchSpace (t₀ : FileTree) (env : Environment) (c : Config) :
    (c.searchSpace t₀ env).Resolved :=
  SearchSpace.resolved_withCurrent t₀ _ _

/-- A launcher that answers at once. -/
def linkedProgram : Program := fun _ =>
  .output (Text.Utf8.encode " java.vendor = V\n java.version = 17\n") [] 5

/-- The file of that launcher. -/
def linkedFile : File :=
  { content := [], executable := true, program := linkedProgram }

/-- A home with a launcher and a link to it, both in one root, and another home elsewhere. -/
def linkedTree : FileTree where
  entries :=
    [(["jvm"], .directory), (["jvm", "a"], .directory), (["jvm", "a", "bin"], .directory),
      (["jvm", "a", "bin", "java"], .file linkedFile), (["jvm", "b"], .link ⟨"a"⟩),
      (["opt"], .directory), (["opt", "h"], .directory), (["opt", "h", "bin"], .directory),
      (["opt", "h", "bin", "java"], .file linkedFile)]
  workingDirectory := ⟨"/"⟩

/-- The link is given as the current home, and the home elsewhere as a hint. -/
def linkedConfig : Config :=
  { roots := [⟨"/jvm"⟩], hints := [("JAVA_HOME", ⟨"/opt/h"⟩)], currentHome := some ⟨"/jvm/b"⟩,
    probe := { vendors := [] } }

/-- The service of that configuration. -/
def linkedService : Service :=
  { prober := probe linkedConfig.probe.timeout ⟨[]⟩
    registry := { space := linkedConfig.searchSpace linkedTree {} }
    build := ⟨.build, none, none⟩
    test := ⟨.test, none, none⟩ }

theorem resolve?_linkedTree : Home.resolve? linkedTree ⟨"/jvm/b"⟩ = some ⟨"/jvm/a"⟩ := by
  decide +kernel

/-- The root has the home and the link to it for subdirectories. -/
theorem names?_linkedTree : linkedTree.names? ⟨"/jvm"⟩ = some ["a", "b"] := by
  decide +kernel

theorem isDirectory_linkedTree : linkedTree.isDirectory ⟨"/jvm/b"⟩ = true := by
  decide +kernel

/-- Both launchers give the same answer. -/
theorem answers_of_locate {home launcher : Path} {last : Location}
    (hlauncher : home.launcher = launcher) (hlast : linkedTree.locate launcher = .ok last)
    (hfile : linkedTree.entry? last = some (.file linkedFile)) :
    Answers linkedTree linkedConfig.probe.timeout ⟨[]⟩ home ⟨"V", ⟨17, 0, 0⟩, .bits32⟩ := by
  have hfound : linkedTree.file? home.launcher = some linkedFile :=
    FileTree.file?_eq_some.mpr ⟨last, hlauncher ▸ hlast, hfile⟩
  exact .intro hfound rfl rfl (by decide) (by decide +kernel)

theorem answers_linkedTree :
    Answers linkedTree linkedConfig.probe.timeout ⟨[]⟩ ⟨"/jvm/a"⟩ ⟨"V", ⟨17, 0, 0⟩, .bits32⟩ := by
  have hlast : linkedTree.locate ⟨"/jvm/a/bin/java"⟩ = .ok ["jvm", "a", "bin", "java"] := by
    decide +kernel
  exact answers_of_locate (by decide) hlast rfl

end Service

end JavaHomes
