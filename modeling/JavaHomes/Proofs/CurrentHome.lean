import JavaHomes.Proofs.Steady
import JavaHomes.Proofs.VersionRange

/-!
What the current home changes. A home that is listed anyway and becomes the current one gets its
mark in the list, and nothing else in the list changes. A test does not look at the mark; a build
takes the current home whenever it can, and otherwise gets what it got before.
-/

namespace JavaHomes

open Launcher

namespace Installation

variable {home : Path} {constraint : Option Constraint} {all listed : List Installation}
  {i : Installation}

/-- An installation with the mark of the current home, if it is the one at `home`. -/
def markAt (home : Path) (i : Installation) : Installation :=
  { i with isCurrent := i.isCurrent || i.home == home }

theorem markAt_of_ne (h : i.home ≠ home) : markAt home i = i := by
  rw [markAt, beq_eq_false_iff_ne.mpr h, Bool.or_false]

/-- Without an installation at `home` there is nothing to mark. -/
theorem map_markAt_of_ne (h : ∀ i ∈ listed, i.home ≠ home) :
    listed.map (markAt home) = listed := by
  rw [List.map_congr_left fun i hi => markAt_of_ne (h i hi), List.map_id']

/-! ### Listing by version and the choice for a test do not see the mark -/

theorem byVersion_map_markAt :
    byVersion constraint (all.map (markAt home)) =
      (byVersion constraint all).map (markAt home) := by
  have hprecedes : ∀ a ∈ all.filter fun i => constraint.all fun c => c.admits i.version,
      ∀ b ∈ all.filter fun i => constraint.all fun c => c.admits i.version,
      precedes a b = precedes (markAt home a) (markAt home b) := fun _ _ _ _ => rfl
  rw [byVersion, byVersion, List.map_mergeSort hprecedes, List.filter_map]
  rfl

theorem smallest_map_markAt (rest : List Installation) : ∀ first : Installation,
    smallest (markAt home first) (rest.map (markAt home)) = markAt home (smallest first rest) := by
  induction rest with
  | nil => exact fun _ => rfl
  | cons a rest ih =>
    intro first
    have hstep : ∀ first, smallest first (a :: rest) =
        smallest (if compareSizes a first == .lt then a else first) rest := fun _ => rfl
    have hstep' : smallest (markAt home first) ((a :: rest).map (markAt home)) =
        smallest (if compareSizes a first == .lt then markAt home a else markAt home first)
          (rest.map (markAt home)) := rfl
    rw [hstep, hstep', ← ih]
    congr 1
    split <;> rfl

theorem forTest?_map_markAt :
    forTest? (listed.map (markAt home)) = (forTest? listed).map (markAt home) := by
  cases listed with
  | nil => rfl
  | cons first rest =>
    rw [List.map_cons, forTest?, forTest?, List.takeWhile_map, Option.map_some]
    exact congrArg some (smallest_map_markAt _ first)

/-! ### The choice for a build takes the marked home -/

theorem forBuild?_map_markAt (hunmarked : ∀ i ∈ listed, i.isCurrent = false)
    (hdistinct : Distinct listed) (hi : i ∈ listed) :
    forBuild? (listed.map (markAt i.home)) = some (markAt i.home i) := by
  have hfind : listed.find? (Installation.isCurrent ∘ markAt i.home) = some i := by
    cases hfind : listed.find? (Installation.isCurrent ∘ markAt i.home) with
    | none =>
      have hnot := List.find?_eq_none.mp hfind i hi
      simp [markAt] at hnot
    | some j =>
      have hj := List.mem_of_find?_eq_some hfind
      have hmarked := List.find?_some hfind
      -- only a home that is now the current one can have the mark
      have hhome : j.home = i.home := by simpa [markAt, hunmarked j hj] using hmarked
      refine congrArg some (hdistinct.eq_of_same hj hi ?_)
      rw [hhome]
      exact Path.same_self _
  rw [forBuild?, List.find?_map, hfind, Option.map_some]

end Installation

namespace Registry

open Installation

variable {home : Path} {constraint : Option Constraint} {all : List Installation}
  {i : Installation} {purpose : Purpose}

/-- The answer to a request that leaves the choice open, from what is listed. -/
def openAnswer (purpose : Purpose) (constraint : Option Constraint) (all : List Installation) :
    Except SelectionFailure Installation :=
  match constraint.filter fun c => !c.isSatisfiable with
  | some c => .error (.unsatisfiable c)
  | none => choose purpose constraint all

theorem select_eq_openAnswer {t : FileTree} {prober : Prober} {finish : Completion} {r : Registry}
    {q : Requirement} (hoverride : q.override = none) :
    (r.select t prober finish q).1 =
      some (openAnswer q.purpose q.constraint (r.query t prober finish).1.installations) := by
  rw [select, hoverride, openAnswer]
  cases q.constraint.filter fun c => !c.isSatisfiable <;> rfl

theorem openAnswer_of_admitted (h : Admitted constraint i) :
    openAnswer purpose constraint all = choose purpose constraint all := by
  rw [openAnswer, filter_not_isSatisfiable fun c hc => c.isSatisfiable_iff.mpr ⟨_, h c hc⟩]

/-- What is listed gets into the answer only through the list by version. -/
theorem openAnswer_congr {all' : List Installation}
    (h : byVersion constraint all' = byVersion constraint all) :
    openAnswer purpose constraint all' = openAnswer purpose constraint all := by
  rw [openAnswer, openAnswer, choose, choose, h]

theorem mem_of_openAnswer_eq_ok (hall : Distinct all)
    (h : openAnswer purpose constraint all = .ok i) : i ∈ all ∧ Admitted constraint i := by
  rw [openAnswer] at h
  split at h
  · cases h
  · exact (choose_eq_ok hall h).1

/-- A test gets the same installation with or without the mark. -/
theorem openAnswer_test_map_markAt :
    openAnswer .test constraint (all.map (markAt home)) =
      (openAnswer .test constraint all).map (markAt home) := by
  rw [openAnswer, openAnswer]
  cases constraint.filter fun c => !c.isSatisfiable with
  | some c => rfl
  | none =>
    simp only [choose, forPurpose?, byVersion_map_markAt, forTest?_map_markAt]
    cases forTest? (byVersion constraint all) <;> rfl

/-- A build gets the marked installation if the constraint admits it. -/
theorem openAnswer_build_of_admitted (hunmarked : ∀ i ∈ all, i.isCurrent = false)
    (hall : Distinct all) (hi : i ∈ all) (hadmitted : Admitted constraint i) :
    openAnswer .build constraint (all.map (markAt i.home)) = .ok (markAt i.home i) := by
  have hlisted : i ∈ byVersion constraint all := mem_byVersion.mpr ⟨hi, hadmitted⟩
  have hunlisted : ∀ j ∈ byVersion constraint all, j.isCurrent = false :=
    fun j hj => hunmarked j (mem_byVersion.mp hj).1
  rw [openAnswer_of_admitted hadmitted, choose, forPurpose?, byVersion_map_markAt,
    forBuild?_map_markAt hunlisted (distinct_byVersion hall) hlisted]

/-- Otherwise nobody gets anything else. -/
theorem openAnswer_map_markAt_of_not_admitted
    (h : ∀ i ∈ all, i.home = home → ¬ Admitted constraint i) :
    openAnswer purpose constraint (all.map (markAt home)) = openAnswer purpose constraint all := by
  refine openAnswer_congr ?_
  rw [byVersion_map_markAt, map_markAt_of_ne]
  intro i hi hhome
  obtain ⟨hmem, hadmitted⟩ := mem_byVersion.mp hi
  exact h i hmem hhome hadmitted

end Registry

namespace SearchSpace

variable {t : FileTree} {space : SearchSpace} {home h : Path} {limit : Duration}
  {vendors : VendorTable}

/-- A search space with another current home. -/
def around (space : SearchSpace) (h : Path) : SearchSpace :=
  { space with current := some h }

theorem exists_leadsTo_around (hnone : space.current = none)
    (hleads : ∃ origin, space.LeadsTo t origin h) :
    (∃ origin, (space.around h).LeadsTo t origin home) ↔ ∃ origin, space.LeadsTo t origin home := by
  constructor
  · rintro ⟨origin, hhome⟩
    cases hhome with
    | entry hroot hnames hname hdirectory hresolve =>
      exact ⟨_, .entry hroot hnames hname hdirectory hresolve⟩
    | hint hhint hresolve => exact ⟨_, .hint hhint hresolve⟩
    | current hcurrent =>
      obtain rfl := Option.some.inj hcurrent
      exact hleads
  · rintro ⟨origin, hhome⟩
    cases hhome with
    | entry hroot hnames hname hdirectory hresolve =>
      exact ⟨_, .entry hroot hnames hname hdirectory hresolve⟩
    | hint hhint hresolve => exact ⟨_, .hint hhint hresolve⟩
    | current hcurrent =>
      rw [hnone] at hcurrent
      cases hcurrent

theorem resolved_of_current_eq_none (hnone : space.current = none) : space.Resolved := by
  intro home hcurrent
  rw [hnone] at hcurrent
  cases hcurrent

theorem isCurrent_of_mem_installations (hnone : space.current = none) :
    ∀ i ∈ space.installations t limit vendors, i.isCurrent = false := by
  intro i hi
  obtain ⟨-, -, hcurrent⟩ := (mem_installations (resolved_of_current_eq_none hnone)).mp hi
  simpa [hnone] using hcurrent

/-- A home that is listed anyway gets the mark of the current home, and that is all. -/
theorem installations_around (hnone : space.current = none)
    (hleads : ∃ origin, space.LeadsTo t origin h) :
    (space.around h).installations t limit vendors =
      (space.installations t limit vendors).map (Installation.markAt h) := by
  have hspace := resolved_of_current_eq_none hnone
  have haround : (space.around h).Resolved := by
    intro home hcurrent
    obtain rfl := Option.some.inj hcurrent
    obtain ⟨origin, hhome⟩ := hleads
    exact hhome.isCanonical hspace
  have hascending : Sorted.Ascending Installation.compareHomes
      ((space.installations t limit vendors).map (Installation.markAt h)) :=
    List.pairwise_map.mpr ascending_installations
  refine ascending_installations.ext hascending fun i => ?_
  rw [mem_installations haround, exists_leadsTo_around hnone hleads, List.mem_map]
  have hmark : (space.around h).current = some i.home ↔ (i.home == h) = true := by
    rw [around, Option.some.injEq, beq_iff_eq, eq_comm]
  rw [hmark, ← Bool.eq_iff_iff]
  constructor
  · rintro ⟨hhome, hanswers, hcurrent⟩
    refine ⟨{ i with isCurrent := false }, (mem_installations hspace).mpr ⟨hhome, hanswers, ?_⟩, ?_⟩
    · simp [hnone]
    · rw [Installation.markAt, Bool.false_or, ← hcurrent]
  · rintro ⟨j, hj, rfl⟩
    obtain ⟨hhome, hanswers, -⟩ := (mem_installations hspace).mp hj
    refine ⟨hhome, hanswers, ?_⟩
    rw [Installation.markAt, isCurrent_of_mem_installations hnone j hj, Bool.false_or]

/-- The launcher of `home` answers, and the constraint admits the version that it tells. -/
def Fits (t : FileTree) (limit : Duration) (vendors : VendorTable) (constraint : Option Constraint)
    (home : Path) (report : Report) : Prop :=
  Answers t limit vendors home report ∧ ∀ c ∈ constraint, c.admits report.version = true

section

open Installation Registry

variable {constraint : Option Constraint}

theorem build_around_of_fits (hnone : space.current = none)
    (hleads : ∃ origin, space.LeadsTo t origin h) {report : Report}
    (hfits : Fits t limit vendors constraint h report) :
    openAnswer .build constraint ((space.installations t limit vendors).map (markAt h)) =
      .ok ⟨h, report.vendor, report.version, report.bitness, true⟩ := by
  obtain ⟨hanswers, hadmitted⟩ := hfits
  have hmem : (⟨h, report.vendor, report.version, report.bitness, false⟩ : Installation) ∈
      space.installations t limit vendors := by
    refine (mem_installations (resolved_of_current_eq_none hnone)).mpr ⟨hleads, hanswers, ?_⟩
    simp [hnone]
  have hanswer := openAnswer_build_of_admitted (isCurrent_of_mem_installations hnone)
    distinct_installations hmem hadmitted
  rw [hanswer, markAt, beq_self_eq_true]
  rfl

theorem fits_of_mem_installations (hnone : space.current = none) {i : Installation}
    (hi : i ∈ space.installations t limit vendors) (hadmitted : Admitted constraint i) :
    Fits t limit vendors constraint i.home ⟨i.vendor, i.version, i.bitness⟩ :=
  ⟨((mem_installations (resolved_of_current_eq_none hnone)).mp hi).2.1, hadmitted⟩

theorem build_around_of_not_fits (hnone : space.current = none)
    (hfits : ¬ ∃ report, Fits t limit vendors constraint h report) :
    openAnswer .build constraint ((space.installations t limit vendors).map (markAt h)) =
      openAnswer .build constraint (space.installations t limit vendors) := by
  refine openAnswer_map_markAt_of_not_admitted fun i hi hhome hadmitted => hfits ?_
  exact ⟨_, hhome ▸ fits_of_mem_installations hnone hi hadmitted⟩

/-- A build gets the current home exactly when that fits. -/
theorem build_around_iff (hnone : space.current = none)
    (hleads : ∃ origin, space.LeadsTo t origin h) :
    (∃ i, openAnswer .build constraint ((space.installations t limit vendors).map (markAt h)) =
      .ok i ∧ i.home = h) ↔ ∃ report, Fits t limit vendors constraint h report := by
  constructor
  · rintro ⟨i, hi, rfl⟩
    by_contra hfits
    rw [build_around_of_not_fits hnone hfits] at hi
    obtain ⟨hmem, hadmitted⟩ := mem_of_openAnswer_eq_ok distinct_installations hi
    exact hfits ⟨_, fits_of_mem_installations hnone hmem hadmitted⟩
  · rintro ⟨report, hfits⟩
    exact ⟨_, build_around_of_fits hnone hleads hfits, rfl⟩

end

end SearchSpace

namespace Session

variable {t : FileTree} {limit : Duration} {vendors : VendorTable} {space : SearchSpace}
  {s : Session}

theorem Steady.answer_open (h : Steady t limit vendors space s) (purpose : Purpose)
    (constraint : Option Constraint) :
    (s.step (.select ⟨purpose, constraint, none⟩)).1 =
      .selected (some (Registry.openAnswer purpose constraint
        (space.installations t limit vendors))) := by
  have hselect : (s.registry.select s.tree s.prober s.nextFinish ⟨purpose, constraint, none⟩).1 =
      some (Registry.openAnswer purpose constraint s.query.1.installations) :=
    Registry.select_eq_openAnswer rfl
  rw [← h.query_eq, ← hselect]
  rfl

end Session

namespace Service

open Installation

variable {t t₀ t₀' : FileTree} {env env' : Environment} {c : Config} {s s' : Service}
  {currentHome : Option Path} {detectsCurrent : Bool} {h : Path} {steps steps' : List Step}

theorem searchSpace_eq_around (t₀ : FileTree) (env : Environment)
    (hcurrent : (({ c with currentHome, detectsCurrent } : Config).searchSpace t₀' env').current =
      some h) :
    ({ c with currentHome, detectsCurrent } : Config).searchSpace t₀' env' =
      (c.searchSpace t₀ env).around h := by
  rw [SearchSpace.around, ← hcurrent]
  rfl

/-- What is requested does not depend on the current home. -/
theorem requirement_eq (hs : ofConfig t₀ env c = .ok s)
    (hs' : ofConfig t₀' env' { c with currentHome, detectsCurrent } = .ok s') (purpose : Purpose) :
    s'.requirement purpose = s.requirement purpose := by
  obtain ⟨-, -, -, -, hrequirement⟩ := ofConfig_eq_ok hs
  obtain ⟨-, -, -, -, hrequirement'⟩ := ofConfig_eq_ok hs'
  exact Except.ok.inj ((hrequirement' purpose).symm.trans (hrequirement purpose))

/-- Two services that differ in the current home only, on a file system that stays as it is: the one
has no current home, and the current home `h` of the other one is a home that both search spaces
lead to. Both list the same, but for the mark at `h`; a test gets the same, but for that mark; and a
build gets the installation at `h` if that fits the constraint, and otherwise the same. -/
theorem current_home_sways_builds_only (hs : ofConfig t₀ env c = .ok s)
    (hs' : ofConfig t₀' env' { c with currentHome, detectsCurrent } = .ok s')
    (hnone : s.registry.space.current = none) (hcurrent : s'.registry.space.current = some h)
    (hleads : ∃ origin, s.registry.space.LeadsTo t origin h)
    (finish finish' : Nat → Completion) (hsteps : ∀ a ∈ steps, a.edits = false)
    (hsteps' : ∀ a ∈ steps', a.edits = false) :
    let ran := ((s.session t finish).run steps).2
    let ran' := ((s'.session t finish').run steps').2
    (∀ purpose, s'.requirement purpose = s.requirement purpose) ∧
    ∃ vendors all scan scan', VendorTable.ofPatterns c.probe.vendors = .ok vendors ∧
      (ran.step .installations).1 = .installations all scan ∧
      (ran'.step .installations).1 = .installations (all.map (markAt h)) scan' ∧
      ∀ constraint,
        (∃ result, (ran.step (.select ⟨.test, constraint, none⟩)).1 = .selected (some result) ∧
          (ran'.step (.select ⟨.test, constraint, none⟩)).1 =
            .selected (some (result.map (markAt h)))) ∧
        ∃ result result',
          (ran.step (.select ⟨.build, constraint, none⟩)).1 = .selected (some result) ∧
          (ran'.step (.select ⟨.build, constraint, none⟩)).1 = .selected (some result') ∧
          ((∃ i, result' = .ok i ∧ i.home = h) ↔
            ∃ report, SearchSpace.Fits t c.probe.timeout vendors constraint h report) ∧
          (∀ report, SearchSpace.Fits t c.probe.timeout vendors constraint h report →
            result' = .ok ⟨h, report.vendor, report.version, report.bitness, true⟩) ∧
          ((¬ ∃ report, SearchSpace.Fits t c.probe.timeout vendors constraint h report) →
            result' = result) := by
  intro ran ran'
  obtain ⟨vendors, hvendors, -, hsteady⟩ := steady_run hs t finish hsteps
  obtain ⟨vendors', hvendors', -, hsteady'⟩ := steady_run hs' t finish' hsteps'
  obtain rfl := Except.ok.inj (hvendors'.symm.trans hvendors)
  obtain ⟨-, -, -, hregistry, -⟩ := ofConfig_eq_ok hs
  obtain ⟨-, -, -, hregistry', -⟩ := ofConfig_eq_ok hs'
  rw [hregistry] at hnone hleads
  rw [hregistry'] at hcurrent
  rw [searchSpace_eq_around t₀ env hcurrent] at hsteady'
  obtain ⟨scan, hanswer⟩ := hsteady.answer_installations
  obtain ⟨scan', hanswer'⟩ := hsteady'.answer_installations
  rw [SearchSpace.installations_around hnone hleads] at hanswer'
  refine ⟨requirement_eq hs hs', vendors', _, scan, scan', hvendors, hanswer, hanswer',
    fun constraint => ⟨⟨_, hsteady.answer_open .test constraint, ?_⟩,
      _, _, hsteady.answer_open .build constraint, hsteady'.answer_open .build constraint, ?_⟩⟩
  · rw [hsteady'.answer_open, SearchSpace.installations_around hnone hleads,
      Registry.openAnswer_test_map_markAt]
  · rw [SearchSpace.installations_around hnone hleads]
    exact ⟨SearchSpace.build_around_iff hnone hleads,
      fun report hfits => SearchSpace.build_around_of_fits hnone hleads hfits,
      SearchSpace.build_around_of_not_fits hnone⟩

/-- The service of the linked home when it is not told of a current one. -/
def unawareService : Service :=
  { linkedService with
    registry := { space := ⟨[⟨"/jvm"⟩], [("JAVA_HOME", ⟨"/opt/h"⟩)], none⟩ } }

theorem leadsTo_linkedTree :
    unawareService.registry.space.LeadsTo linkedTree .searchPath ⟨"/jvm/a"⟩ :=
  .entry List.mem_cons_self names?_linkedTree (List.mem_cons_of_mem _ List.mem_cons_self)
    isDirectory_linkedTree resolve?_linkedTree

/-- The one service has been asked before, the other one has not. -/
theorem current_home_sways_builds_linked :
    let steps := [Step.installations, .invalidate]
    ofConfig linkedTree {} { linkedConfig with currentHome := none, detectsCurrent := false } =
        .ok unawareService ∧
      ofConfig linkedTree {} linkedConfig = .ok linkedService ∧ (∀ a ∈ steps, a.edits = false) ∧
      unawareService.registry.space.current = none ∧
      linkedService.registry.space.current = some ⟨"/jvm/a"⟩ ∧
      (((linkedService.session linkedTree fun _ => .inTurn).run steps).2.step
          (.select ⟨.build, some (.atLeast ⟨11, 0, 0⟩), none⟩)).1 =
        .selected (some (.ok ⟨⟨"/jvm/a"⟩, "V", ⟨17, 0, 0⟩, .bits32, true⟩)) := by
  intro steps
  have hs : ofConfig linkedTree {}
      { linkedConfig with currentHome := none, detectsCurrent := false } = .ok unawareService := rfl
  have hs' : ofConfig linkedTree {} linkedConfig = .ok linkedService := rfl
  have hcurrent : linkedService.registry.space.current = some ⟨"/jvm/a"⟩ := resolve?_linkedTree
  have hfresh : ∀ a ∈ ([] : List Step), a.edits = false := by decide
  have hsteps : ∀ a ∈ steps, a.edits = false := by decide
  refine ⟨hs, hs', hsteps, rfl, hcurrent, ?_⟩
  obtain ⟨-, vendors, all, scan, scan', hvendors, -, -, hanswers⟩ :=
    current_home_sways_builds_only hs hs' rfl hcurrent ⟨_, leadsTo_linkedTree⟩ (fun _ => .inTurn)
      (fun _ => .inTurn) hfresh hsteps
  cases hvendors
  obtain ⟨-, result, result', -, hresult', -, hfits, -⟩ :=
    hanswers (some (.atLeast ⟨11, 0, 0⟩))
  rw [hresult', hfits _ ⟨answers_linkedTree, ?_⟩]
  rintro c hc
  cases hc
  decide

end Service

end JavaHomes
