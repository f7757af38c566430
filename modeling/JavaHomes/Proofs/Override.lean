import JavaHomes.Proofs.Steady

/-!
Requests for an explicit home. Such a request costs one probe and leaves the population alone, and
nothing but the path and the current home has a say in its answer. On a file system that stays as it
is, the answer agrees with the scan: a path to a listed home gets the very installation that is
listed, and a path to a home that was dropped fails with the reason for which it was dropped.
-/

namespace JavaHomes

open Launcher

/-! ### The answer and what it leaves alone -/

namespace Registry

variable {t : FileTree} {prober : Prober} {finish : Completion} {r : Registry} {q : Requirement}
  {path home : Path}

theorem explicitAnswer_eq_some {outcome : Outcome} {result : Except SelectionFailure Installation}
    (h : explicitAnswer path outcome = some result) :
    (∃ i, outcome = .found i ∧ result = .ok i) ∨
      ∃ f, outcome = .failed f ∧ result = .error (.overrideInvalid path f) := by
  cases outcome with
  | found i => exact .inl ⟨i, rfl, (Option.some.inj h).symm⟩
  | failed f => exact .inr ⟨f, rfl, (Option.some.inj h).symm⟩
  | crashed => cases h

/-- A request for an explicit home makes one call of the prober, and nothing else happens to the
registry. A home that was found is the answer; a failure is reported with the path as it was given.
No other answer is possible, and neither the purpose, nor the constraint, nor what is listed makes
any difference. -/
theorem select_explicit (hoverride : q.override = some path) :
    (r.select t prober finish q).2 =
      { r with probed := r.probed ++ [r.explicitCandidate t path] } ∧
    (∀ i, prober r.probed.length t (r.explicitCandidate t path) = .found i →
      (r.select t prober finish q).1 = some (.ok i)) ∧
    (∀ f, prober r.probed.length t (r.explicitCandidate t path) = .failed f →
      (r.select t prober finish q).1 = some (.error (.overrideInvalid path f))) ∧
    (∀ result, (r.select t prober finish q).1 = some result →
      (∃ i, prober r.probed.length t (r.explicitCandidate t path) = .found i ∧ result = .ok i) ∨
        ∃ f, prober r.probed.length t (r.explicitCandidate t path) = .failed f ∧
          result = .error (.overrideInvalid path f)) ∧
    ∀ (r' : Registry) (q' : Requirement) (finish' : Completion), q'.override = some path →
      r'.space.current = r.space.current →
      prober r'.probed.length t (r.explicitCandidate t path) =
        prober r.probed.length t (r.explicitCandidate t path) →
      (r'.select t prober finish' q').1 = (r.select t prober finish q).1 := by
  rw [select_of_override hoverride]
  refine ⟨rfl, fun i hi => ?_, fun f hf => ?_,
    fun result hresult => explicitAnswer_eq_some hresult, ?_⟩
  · rw [hi]
    rfl
  · rw [hf]
    rfl
  · intro r' q' finish' hoverride' hcurrent hcalls
    rw [select_of_override hoverride', explicitCandidate_congr hcurrent, hcalls]

/-- A prober to which no launcher says anything that can be read. -/
def nothingReadable : Prober := fun _ _ _ => .failed (.unparsableOutput ⟨"/x/bin/java"⟩)

/-- A registry that lists a home. -/
def oneListed : Registry :=
  { space := { roots := [⟨"/opt"⟩] }
    population := some ⟨[⟨⟨"/opt/jdk"⟩, "C", ⟨17, 0, 0⟩, .bits64, false⟩], ⟨1, 1, 0, 0⟩⟩
    scans := 1
    probed := [⟨⟨"/opt/jdk"⟩, .searchPath⟩] }

/-- The listed home would do for a build, and no version would do for the test. -/
theorem select_explicit_oneListed :
    let build : Requirement := ⟨.build, some (.major 17), some ⟨"/x/"⟩⟩
    let test : Requirement := ⟨.test, some (.between ⟨21, 0, 0⟩ ⟨17, 0, 0⟩), some ⟨"/x/"⟩⟩
    let failure := SelectionFailure.overrideInvalid ⟨"/x/"⟩ (.unparsableOutput ⟨"/x/bin/java"⟩)
    build.override = some ⟨"/x/"⟩ ∧
      (oneListed.select ⟨[], ⟨"/"⟩⟩ nothingReadable .inTurn build).1 = some (.error failure) ∧
      (oneListed.invalidate.select ⟨[], ⟨"/"⟩⟩ nothingReadable .inTurn test).1 =
        some (.error failure) := by
  intro build test failure
  obtain ⟨-, -, hfailed, -, hsame⟩ :=
    @select_explicit ⟨[], ⟨"/"⟩⟩ nothingReadable .inTurn oneListed build ⟨"/x/"⟩ rfl
  have hbuild := hfailed (.unparsableOutput ⟨"/x/bin/java"⟩) rfl
  exact ⟨rfl, hbuild, (hsame oneListed.invalidate test .inTurn rfl rfl rfl).trans hbuild⟩

/-! ### What an explicit path stands for -/

theorem home_explicitCandidate (h : Home.resolve? t path = some home) :
    (r.explicitCandidate t path).home = home := by
  rw [explicitCandidate, h, Option.getD_some]

/-- A path to the current home stands for the current home, whatever the path looks like. -/
theorem isCurrent_explicitCandidate (hspace : r.space.Resolved)
    (h : Home.resolve? t path = some home) :
    (r.explicitCandidate t path).isCurrent = true ↔ r.space.current = some home := by
  have hhome : home.IsCanonical := Home.isCanonical_of_resolve? h
  rw [explicitCandidate, h, Option.getD_some, Candidate.isCurrent, beq_iff_eq]
  cases hcurrent : r.space.current with
  | none => simp
  | some current =>
    have hsame : home.same current = true ↔ current = home := by
      constructor
      · intro hsame
        exact (hhome.eq_of_compare (hspace current hcurrent) (Path.same_iff.mp hsame)).symm
      · rintro rfl
        exact Path.same_self _
    simp [hsame]

end Registry

/-! ### The scan and the explicit path agree -/

namespace Launcher

variable {limit : Duration} {vendors : VendorTable} {t : FileTree} {c d : Candidate}

/-- A launcher is asked about the home; of the reason for it only the mark of the current home is
seen. -/
theorem probe_congr (hhome : c.home = d.home) (hcurrent : c.isCurrent = d.isCurrent)
    (calls calls' : Nat) : probe limit vendors calls t c = probe limit vendors calls' t d := by
  have hlauncher : c.launcher = d.launcher := by
    rw [Candidate.launcher, Candidate.launcher, hhome]
  have hjudge : judge limit vendors c = judge limit vendors d := by
    funext response
    cases response <;> simp only [judge, hlauncher, hhome, hcurrent]
  simp only [probe, hlauncher, hjudge]

/-- The probe of a launcher never breaks off. -/
theorem probe_ne_crashed (calls : Nat) : probe limit vendors calls t c ≠ .crashed := by
  have hjudge : ∀ response, judge limit vendors c response ≠ .crashed := by
    intro response
    cases response with
    | refused => simp [judge]
    | output stdout stderr millis =>
      rw [judge]
      split
      · simp
      · split <;> simp
  rw [probe]
  split
  · simp
  · split
    · exact hjudge _
    · simp

theorem probe_explicitCandidate {r : Registry} {path : Path} (hspace : r.space.Resolved)
    (hd : d ∈ r.space.scan t) (h : Home.resolve? t path = some d.home) (calls calls' : Nat) :
    probe limit vendors calls t (r.explicitCandidate t path) = probe limit vendors calls' t d := by
  refine probe_congr (Registry.home_explicitCandidate h) ?_ calls calls'
  rw [Bool.eq_iff_iff, Registry.isCurrent_explicitCandidate hspace h,
    SearchSpace.isCurrent_of_mem_scan hspace hd]

end Launcher

namespace Session

variable {t : FileTree} {limit : Duration} {vendors : VendorTable} {space : SearchSpace}
  {s : Session} {d : Candidate} {path : Path}

/-- A path to the home of a candidate gets what the probe of the candidate comes to. -/
theorem Steady.answer_explicit (h : Steady t limit vendors space s) (hspace : space.Resolved)
    (hd : d ∈ space.scan t) (hpath : Home.resolve? t path = some d.home) (purpose : Purpose)
    (constraint : Option Constraint) (calls : Nat) :
    (s.step (.select ⟨purpose, constraint, some path⟩)).1 =
      .selected (Registry.explicitAnswer path (probe limit vendors calls t d)) := by
  have hprobe : s.prober s.registry.probed.length s.tree
      (s.registry.explicitCandidate s.tree path) = probe limit vendors calls t d := by
    rw [h.prober_eq, h.tree_eq]
    exact probe_explicitCandidate (h.space_eq ▸ hspace) (h.space_eq ▸ hd) hpath _ calls
  rw [Session.step, Registry.select_of_override rfl, hprobe]

end Session

namespace Service

variable {t₀ : FileTree} {env : Environment} {c : Config} {s : Service}

/-- On a file system that stays as it is, whatever was asked before: every path that resolves to the
home of a listed installation gets that very installation, for any purpose and under any constraint;
and a candidate that is not listed was dropped for some failure, which is then the reason why every
path to its home fails. -/
theorem explicit_agrees_with_scan (hs : ofConfig t₀ env c = .ok s) (t : FileTree)
    (finish : Nat → Completion) {steps : List Step} (hsteps : ∀ a ∈ steps, a.edits = false) :
    let ran := ((s.session t finish).run steps).2
    ∃ all scan, (ran.step .installations).1 = .installations all scan ∧
      (∀ i ∈ all, ∀ path, Home.resolve? t path = some i.home → ∀ purpose constraint,
        (ran.step (.select ⟨purpose, constraint, some path⟩)).1 = .selected (some (.ok i))) ∧
      ∀ d ∈ s.registry.space.scan t, (∀ i ∈ all, i.home ≠ d.home) →
        ∃ f, (∀ calls, s.prober calls t d = .failed f) ∧
          ∀ path, Home.resolve? t path = some d.home → ∀ purpose constraint,
            (ran.step (.select ⟨purpose, constraint, some path⟩)).1 =
              .selected (some (.error (.overrideInvalid path f))) := by
  intro ran
  obtain ⟨vendors, -, hprober, hsteady⟩ := steady_run hs t finish hsteps
  obtain ⟨-, -, -, hregistry, -⟩ := ofConfig_eq_ok hs
  have hspace := resolved_searchSpace t₀ env c
  obtain ⟨scan, hanswer⟩ := hsteady.answer_installations
  refine ⟨_, scan, hanswer, fun i hi path hpath purpose constraint => ?_, fun d hd hdropped => ?_⟩
  · obtain ⟨d, hd, hfound⟩ := (Population.mem_installations_iff_probe .inTurn 0).mp hi
    have hhome : i.home = d.home := ((probe_eq_found 0).mp hfound).2.1
    rw [hhome] at hpath
    rw [hsteady.answer_explicit hspace hd hpath purpose constraint 0, hfound]
    rfl
  · rw [hregistry] at hd
    cases houtcome : probe c.probe.timeout vendors 0 t d with
    | crashed => exact absurd houtcome (probe_ne_crashed 0)
    | found i =>
      have hi := (Population.mem_installations_iff_probe .inTurn 0).mpr ⟨d, hd, houtcome⟩
      exact absurd ((probe_eq_found 0).mp houtcome).2.1 (hdropped i hi)
    | failed f =>
      refine ⟨f, fun calls => ?_, fun path hpath purpose constraint => ?_⟩
      · rw [hprober]
        exact houtcome
      · rw [hsteady.answer_explicit hspace hd hpath purpose constraint 0, houtcome]
        rfl

/-- A link to a listed home, asked for when the list has just been dropped. -/
theorem explicit_agrees_with_linked :
    let steps := [Step.installations, .invalidate]
    ofConfig linkedTree {} linkedConfig = .ok linkedService ∧ (∀ a ∈ steps, a.edits = false) ∧
      ((((linkedService.session linkedTree fun _ => .inTurn).run steps).2.step
          (.select ⟨.test, some (.major 21), some ⟨"/jvm/b"⟩⟩)).1 =
        .selected (some (.ok ⟨⟨"/jvm/a"⟩, "V", ⟨17, 0, 0⟩, .bits32, true⟩))) := by
  intro steps
  have hs : ofConfig linkedTree {} linkedConfig = .ok linkedService := rfl
  have hsteps : ∀ a ∈ steps, a.edits = false := by decide
  have hcurrent : (linkedConfig.searchSpace linkedTree {}).current = some ⟨"/jvm/a"⟩ :=
    resolve?_linkedTree
  refine ⟨hs, hsteps, ?_⟩
  obtain ⟨all, scan, hall, hlisted, -⟩ :=
    explicit_agrees_with_scan hs linkedTree (fun _ => .inTurn) hsteps
  obtain ⟨vendors, hvendors, -, hsteady⟩ := steady_run hs linkedTree (fun _ => .inTurn) hsteps
  obtain ⟨scan', hanswer⟩ := hsteady.answer_installations
  cases hvendors
  cases hall.symm.trans hanswer
  refine hlisted _ ?_ ⟨"/jvm/b"⟩ resolve?_linkedTree .test _
  refine (Population.mem_installations_ofSpace (resolved_searchSpace linkedTree {} linkedConfig)
    .inTurn 0).mpr ⟨⟨_, .current hcurrent⟩, answers_linkedTree, ?_⟩
  rw [hcurrent]
  exact iff_of_true rfl rfl

end Service

end JavaHomes
