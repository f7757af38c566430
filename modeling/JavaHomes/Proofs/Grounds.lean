import JavaHomes.Proofs.CurrentHome
import JavaHomes.Proofs.Override
import JavaHomes.Proofs.Resolution

/-!
What an answer rests on. Whoever gets an installation gets one that a probe has found at a canonical
home with a launcher that could be executed at that time, and a path that stands for no home is
never started, provided that a path with a launcher has a canonical path. Two kinds of paths slip
through, for which the launcher that lies there is started all the same: the empty path, which leads
nowhere and yet has a launcher in the working directory, and a relative path in a working directory
that cannot be reached from the root.
-/

namespace JavaHomes

open Launcher

variable {t₀ t : FileTree} {limit : Duration} {vendors : VendorTable} {i : Installation}

/-- What an installation rests on. The probe found it on `t`, at a canonical home to which some path
leads there; only the current home may have been resolved earlier, on `t₀`. Its launcher may be
executed. -/
structure Installation.Rests (prober : Prober) (t₀ t : FileTree) (i : Installation) : Prop where
  found : ∃ c : Candidate, c.home = i.home ∧ ∀ calls, prober calls t c = .found i
  canonical : i.home.IsCanonical
  resolved : ∃ p, Home.resolve? t p = some i.home ∨ Home.resolve? t₀ p = some i.home
  executable : t.isExecutable i.home.launcher = true

namespace Launcher

variable {d : Candidate}

theorem isExecutable_of_answers {home : Path} {report : Report}
    (h : Answers t limit vendors home report) : t.isExecutable home.launcher = true := by
  obtain ⟨hfile, hexecutable, -, -, -⟩ := h
  rw [FileTree.isExecutable, hfile]
  exact hexecutable

/-- Where there is no launcher, nothing is started. -/
theorem probe_of_not_isFile (h : t.isFile d.launcher = false) (calls : Nat) :
    probe limit vendors calls t d = .failed (.notExecutable d.launcher) := by
  have hnone : t.file? d.launcher = none :=
    Option.not_isSome_iff_eq_none.mp (Bool.not_eq_true _ ▸ h)
  rw [probe, hnone]

/-- What a probe finds at a resolved home rests on it. -/
theorem rests_of_found {p : Path} (hfound : probe limit vendors 0 t d = .found i)
    (hp : Home.resolve? t p = some d.home ∨ Home.resolve? t₀ p = some d.home) :
    i.Rests (probe limit vendors) t₀ t := by
  obtain ⟨hanswers, hhome, -⟩ := (probe_eq_found 0).mp hfound
  exact {
    found := ⟨d, hhome.symm, fun calls => (probe_congr rfl rfl calls 0).trans hfound⟩
    canonical := hhome ▸ hp.elim Home.isCanonical_of_resolve? Home.isCanonical_of_resolve?
    resolved := ⟨p, hhome ▸ hp⟩
    executable := hhome ▸ isExecutable_of_answers hanswers }

end Launcher

theorem Registry.home_explicitCandidate_of_none {r : Registry} {path : Path}
    (h : Home.resolve? t path = none) : (r.explicitCandidate t path).home = path := by
  rw [explicitCandidate, h, Option.getD_none]

namespace Session

variable {s : Session} {q : Requirement} {path home : Path}

/-- An open request is answered from what a question finds. -/
theorem answer_of_open (s : Session) (hoverride : q.override = none) :
    (s.step (.select q)).1 =
      .selected (some (Registry.openAnswer q.purpose q.constraint s.query.1.installations)) :=
  congrArg Answer.selected (Registry.select_eq_openAnswer hoverride)

/-- Whatever was asked before, an open request is answered with an installation of some snapshot. -/
theorem mem_snapshot_of_open (t : FileTree) (prober : Prober) (finish : Nat → Completion)
    (space : SearchSpace) (steps : List Step) (hoverride : q.override = none)
    (h : (((fresh t prober finish space).run steps).2.step (.select q)).1 =
      .selected (some (.ok i))) :
    ∃ before, before <+: steps ∧ i ∈ (snapshot t prober finish space before).installations := by
  obtain ⟨before, hbefore, hquery⟩ := exists_query_eq t prober finish space steps
  rw [answer_of_open _ hoverride, hquery, Answer.selected.injEq, Option.some.injEq] at h
  have hdistinct : Installation.Distinct (snapshot t prober finish space before).installations :=
    (Population.ascending_ofOutcomes _).imp Path.not_same_of_lt
  exact ⟨before, hbefore, (Registry.mem_of_openAnswer_eq_ok hdistinct h).1⟩

/-- A request for an explicit home is answered from one probe. -/
theorem answer_of_explicit (s : Session) (hoverride : q.override = some path) :
    (s.step (.select q)).1 =
      .selected (Registry.explicitAnswer path (s.prober s.registry.probed.length s.tree
        (s.registry.explicitCandidate s.tree path))) := by
  rw [step, Registry.select_of_override hoverride]

/-- A path that stands for no home fails for want of a launcher. -/
theorem answer_of_unresolved (hprober : s.prober = probe limit vendors)
    (hoverride : q.override = some path) (hfile : s.tree.isFile path.launcher = false)
    (hnone : Home.resolve? s.tree path = none) :
    (s.step (.select q)).1 =
      .selected (some (.error (.overrideInvalid path (.notExecutable path.launcher)))) := by
  have hlauncher : (s.registry.explicitCandidate s.tree path).launcher = path.launcher :=
    congrArg Path.launcher (Registry.home_explicitCandidate_of_none hnone)
  rw [answer_of_explicit s hoverride, hprober, probe_of_not_isFile (hlauncher ▸ hfile), hlauncher]
  rfl

/-- A path that stands for no home is probed as it was given. -/
theorem answer_of_unnamed {report : Report} (hprober : s.prober = probe limit vendors)
    (hoverride : q.override = some path) (hnone : Home.resolve? s.tree path = none)
    (hcurrent : s.registry.space.current = none) (h : Answers s.tree limit vendors path report) :
    (s.step (.select q)).1 =
      .selected (some (.ok ⟨path, report.vendor, report.version, report.bitness, false⟩)) := by
  have hcandidate : s.registry.explicitCandidate s.tree path = ⟨path, .explicit⟩ := by
    rw [Registry.explicitCandidate, hnone, hcurrent]
    rfl
  have hfound : s.prober s.registry.probed.length s.tree ⟨path, .explicit⟩ =
      .found ⟨path, report.vendor, report.version, report.bitness, false⟩ := by
    rw [hprober]
    exact (probe_eq_found _).mpr ⟨h, rfl, rfl⟩
  rw [answer_of_explicit s hoverride, hcandidate, hfound]
  rfl

/-- An explicit home that answers is one that the path resolves to. -/
theorem rests_of_explicit (hprober : s.prober = probe limit vendors)
    (hoverride : q.override = some path) (hhome : Home.resolve? s.tree path = some home)
    (h : (s.step (.select q)).1 = .selected (some (.ok i))) :
    i.Rests (probe limit vendors) t₀ s.tree := by
  rw [answer_of_explicit s hoverride, Answer.selected.injEq] at h
  obtain ⟨j, hfound, heq⟩ | ⟨f, -, heq⟩ := Registry.explicitAnswer_eq_some h
  · cases heq
    rw [hprober, probe_congr (d := s.registry.explicitCandidate s.tree path) rfl rfl _ 0] at hfound
    have hcandidate : Home.resolve? s.tree path =
        some (s.registry.explicitCandidate s.tree path).home := by
      rw [Registry.home_explicitCandidate hhome, hhome]
    exact rests_of_found hfound (.inl hcandidate)
  · cases heq

end Session

namespace Service

variable {env : Environment} {c : Config} {s : Service}

/-- All installations of a population rest on the file system that it was made of. -/
theorem rests_of_mem_installations {finish : Completion} {calls : Nat}
    (hi : i ∈ (Population.ofSpace t (probe limit vendors) finish calls
      (c.searchSpace t₀ env)).installations) :
    i.Rests (probe limit vendors) t₀ t := by
  obtain ⟨d, hd, hfound⟩ := (Population.mem_installations_iff_probe finish calls).mp hi
  obtain ⟨hleads, -⟩ := SearchSpace.leadsTo_of_mem_scan (resolved_searchSpace t₀ env c) hd
  generalize d.origin = origin at hleads
  cases hleads with
  | entry _ _ _ _ hresolve => exact rests_of_found hfound (.inl hresolve)
  | hint _ hresolve => exact rests_of_found hfound (.inl hresolve)
  | current hcurrent =>
    obtain ⟨p, -, hresolve⟩ := Option.bind_eq_some_iff.mp hcurrent
    exact rests_of_found hfound (.inr hresolve)

/-- Whatever was asked before and however the file system changed: an installation that a request is
answered with rests on the file system as it was at some moment. A path that resolves to nothing has
no launcher that could be started, which is then why the request fails. All this holds of every
request but one for a path that has a launcher and yet no canonical path, and such a path is empty
or starts from a place that cannot be reached from the root. -/
theorem select_rests (hs : ofConfig t₀ env c = .ok s) (t : FileTree) (finish : Nat → Completion)
    (steps : List Step) (q : Requirement) :
    let ran := ((s.session t finish).run steps).2
    (∀ path, path.text ≠ "" → ran.tree.reaches (ran.tree.start path) = true →
      Home.Nameable ran.tree path) ∧
    ((∀ path, q.override = some path → Home.Nameable ran.tree path) →
      (∀ i, (ran.step (.select q)).1 = .selected (some (.ok i)) →
        ∃ before, before <+: steps ∧ i.Rests s.prober t₀ (Session.treeAfter t before)) ∧
      ∀ path, q.override = some path → Home.resolve? ran.tree path = none →
        ran.tree.file? path.launcher = none ∧
        (ran.step (.select q)).1 =
          .selected (some (.error (.overrideInvalid path (.notExecutable path.launcher))))) := by
  intro ran
  refine ⟨fun path => Home.nameable_of_reaches, fun hnameable => ?_⟩
  obtain ⟨vendors, -, hprober, hregistry, -⟩ := ofConfig_eq_ok hs
  have hfresh : s.session t finish = Session.fresh t s.prober finish (c.searchSpace t₀ env) := by
    rw [session, hregistry]
    rfl
  have hran : ran = ((Session.fresh t s.prober finish (c.searchSpace t₀ env)).run steps).2 := by
    rw [← hfresh]
  have hafter := Session.after_run t s.prober finish (c.searchSpace t₀ env) steps
  rw [← hran] at hafter
  have hprobing : ran.prober = probe c.probe.timeout vendors := hafter.prober_eq.trans hprober
  have hfile : ∀ path, q.override = some path → Home.resolve? ran.tree path = none →
      ran.tree.isFile path.launcher = false := fun path hpath hnone =>
    Home.isFile_launcher_of_resolve?_eq_none hnone (hnameable path hpath)
  refine ⟨fun i hi => ?_, fun path hpath hnone => ⟨?_, ?_⟩⟩
  · rw [hprober]
    cases hpath : q.override with
    | none =>
      rw [hran] at hi
      obtain ⟨before, hbefore, hmem⟩ := Session.mem_snapshot_of_open t s.prober finish _ steps
        hpath hi
      rw [Session.snapshot, hprober] at hmem
      exact ⟨before, hbefore, rests_of_mem_installations hmem⟩
    | some path =>
      refine ⟨steps, List.prefix_rfl, ?_⟩
      rw [← hafter.tree_eq]
      cases hresolve : Home.resolve? ran.tree path with
      | some home => exact Session.rests_of_explicit hprobing hpath hresolve hi
      | none =>
        have hfails := Session.answer_of_unresolved hprobing hpath (hfile path hpath hresolve)
          hresolve
        cases hfails.symm.trans hi
  · exact Option.not_isSome_iff_eq_none.mp (Bool.not_eq_true _ ▸ hfile path hpath hnone)
  · exact Session.answer_of_unresolved hprobing hpath (hfile path hpath hnone) hnone

theorem answer_linkedTree :
    ((linkedService.session linkedTree fun _ => .inTurn).step
      (.select ⟨.test, some (.major 21), some ⟨"/jvm/b"⟩⟩)).1 =
        .selected (some (.ok ⟨⟨"/jvm/a"⟩, "V", ⟨17, 0, 0⟩, .bits32, true⟩)) := by
  have hspace : linkedService.registry.space.Resolved :=
    resolved_searchSpace linkedTree {} linkedConfig
  have hhome : (linkedService.registry.explicitCandidate linkedTree ⟨"/jvm/b"⟩).home =
      ⟨"/jvm/a"⟩ := Registry.home_explicitCandidate resolve?_linkedTree
  have hmarked := (Registry.isCurrent_explicitCandidate hspace resolve?_linkedTree).mpr
    resolve?_linkedTree
  have hfound : linkedService.prober 0 linkedTree
      (linkedService.registry.explicitCandidate linkedTree ⟨"/jvm/b"⟩) =
        .found ⟨⟨"/jvm/a"⟩, "V", ⟨17, 0, 0⟩, .bits32, true⟩ := by
    refine (probe_eq_found 0).mpr ⟨?_, hhome.symm, hmarked.symm⟩
    rw [hhome]
    exact answers_linkedTree
  exact (Session.answer_of_explicit _ rfl).trans
    (congrArg (fun o => Answer.selected (Registry.explicitAnswer ⟨"/jvm/b"⟩ o)) hfound)

theorem resolve?_missing : Home.resolve? linkedTree ⟨"/jvm/c"⟩ = none := by
  decide +kernel

/-- The linked home is found under its own name, and a path to nothing is not started. -/
theorem select_rests_linked :
    let found : Requirement := ⟨.test, some (.major 21), some ⟨"/jvm/b"⟩⟩
    let missing : Requirement := ⟨.build, none, some ⟨"/jvm/c"⟩⟩
    let i : Installation := ⟨⟨"/jvm/a"⟩, "V", ⟨17, 0, 0⟩, .bits32, true⟩
    ofConfig linkedTree {} linkedConfig = .ok linkedService ∧
      Home.Nameable linkedTree ⟨"/jvm/b"⟩ ∧ Home.Nameable linkedTree ⟨"/jvm/c"⟩ ∧
      ((linkedService.session linkedTree fun _ => .inTurn).step (.select found)).1 =
        .selected (some (.ok i)) ∧
      i.Rests linkedService.prober linkedTree linkedTree ∧
      ((linkedService.session linkedTree fun _ => .inTurn).step (.select missing)).1 =
        .selected (some (.error (.overrideInvalid ⟨"/jvm/c"⟩
          (.notExecutable ⟨"/jvm/c/bin/java"⟩)))) := by
  intro found missing i
  have hs : ofConfig linkedTree {} linkedConfig = .ok linkedService := rfl
  obtain ⟨hnameable, hrests⟩ := select_rests hs linkedTree (fun _ => .inTurn) [] found
  obtain ⟨-, hfails⟩ := select_rests hs linkedTree (fun _ => .inTurn) [] missing
  have hb : Home.Nameable linkedTree ⟨"/jvm/b"⟩ :=
    hnameable _ (by decide) (FileTree.reaches_start_of_isAbsolute (by decide))
  have hc : Home.Nameable linkedTree ⟨"/jvm/c"⟩ :=
    hnameable _ (by decide) (FileTree.reaches_start_of_isAbsolute (by decide))
  obtain ⟨before, hbefore, hi⟩ :=
    (hrests fun path hpath => Option.some.inj hpath ▸ hb).1 i answer_linkedTree
  rw [List.prefix_nil.mp hbefore] at hi
  have hnothing := (hfails fun path hpath => Option.some.inj hpath ▸ hc).2 ⟨"/jvm/c"⟩ rfl
    resolve?_missing
  exact ⟨hs, hb, hc, answer_linkedTree, hi, hnothing.2⟩

/-- A working directory with a launcher in it. -/
def strayTree : FileTree where
  entries :=
    [(["work"], .directory), (["work", "bin"], .directory),
      (["work", "bin", "java"], .file linkedFile)]
  workingDirectory := ⟨"/work"⟩

/-- A configuration without any place to look for homes. -/
def strayConfig : Config :=
  { detectsCurrent := false, probe := { vendors := [] } }

/-- The service of that configuration. -/
def strayService : Service :=
  { prober := probe strayConfig.probe.timeout ⟨[]⟩
    registry := { space := {} }
    build := ⟨.build, none, none⟩
    test := ⟨.test, none, none⟩ }

theorem resolve?_strayTree : Home.resolve? strayTree ⟨""⟩ = none := by
  decide +kernel

/-- The empty path stands for no home, and yet the launcher of the working directory is started for
it; the answer is an installation whose home is no canonical path. -/
theorem select_empty_path :
    ofConfig strayTree {} strayConfig = .ok strayService ∧
      Home.resolve? strayTree ⟨""⟩ = none ∧
      ((strayService.session strayTree fun _ => .inTurn).step
        (.select ⟨.build, none, some ⟨""⟩⟩)).1 =
          .selected (some (.ok ⟨⟨""⟩, "V", ⟨17, 0, 0⟩, .bits32, false⟩)) ∧
      ¬ (⟨""⟩ : Path).IsCanonical := by
  have hlast : strayTree.locate (Path.launcher ⟨""⟩) = .ok ["work", "bin", "java"] := by
    decide +kernel
  have hfile : strayTree.file? (Path.launcher ⟨""⟩) = some linkedFile :=
    FileTree.file?_eq_some.mpr ⟨_, hlast, rfl⟩
  have hanswers : Answers strayTree strayConfig.probe.timeout ⟨[]⟩ ⟨""⟩
      ⟨"V", ⟨17, 0, 0⟩, .bits32⟩ := .intro hfile rfl rfl (by decide) (by decide +kernel)
  refine ⟨rfl, resolve?_strayTree, ?_, ?_⟩
  · exact Session.answer_of_unnamed (s := strayService.session strayTree fun _ => .inTurn) rfl rfl
      resolve?_strayTree rfl hanswers
  · rintro ⟨names, -, hempty⟩
    have habsolute := Path.isAbsolute_ofNames names
    rw [← hempty] at habsolute
    exact absurd habsolute (by decide)

/-- A working directory with a home in it, below a directory that may not be searched. -/
def sealedTree : FileTree where
  entries :=
    [(["safe"], .directory true false), (["safe", "work"], .directory),
      (["safe", "work", "jdk"], .directory), (["safe", "work", "jdk", "bin"], .directory),
      (["safe", "work", "jdk", "bin", "java"], .file linkedFile)]
  workingDirectory := ⟨"/safe/work"⟩

/-- A relative path to that home slips through as well: nothing but its canonical path is denied. -/
theorem select_sealed_path :
    Home.resolve? sealedTree ⟨"jdk"⟩ = none ∧
      ((strayService.session sealedTree fun _ => .inTurn).step
        (.select ⟨.build, none, some ⟨"jdk"⟩⟩)).1 =
          .selected (some (.ok ⟨⟨"jdk"⟩, "V", ⟨17, 0, 0⟩, .bits32, false⟩)) := by
  have hresolve : Home.resolve? sealedTree ⟨"jdk"⟩ = none := by decide +kernel
  have hlast : sealedTree.locate (Path.launcher ⟨"jdk"⟩) =
      .ok ["safe", "work", "jdk", "bin", "java"] := by decide +kernel
  have hfile : sealedTree.file? (Path.launcher ⟨"jdk"⟩) = some linkedFile :=
    FileTree.file?_eq_some.mpr ⟨_, hlast, rfl⟩
  have hanswers : Answers sealedTree strayConfig.probe.timeout ⟨[]⟩ ⟨"jdk"⟩
      ⟨"V", ⟨17, 0, 0⟩, .bits32⟩ := .intro hfile rfl rfl (by decide) (by decide +kernel)
  refine ⟨hresolve, ?_⟩
  exact Session.answer_of_unnamed (s := strayService.session sealedTree fun _ => .inTurn) rfl rfl
    hresolve rfl hanswers

end Service

end JavaHomes
