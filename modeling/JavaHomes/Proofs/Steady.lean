import JavaHomes.Proofs.Discovery

/-!
Services on a file system that stays as it is. Whatever a service is asked, its population then
holds the same installations, however often it is dropped and made again and in whatever order the
probes finish; so the answer to a step can be told from the search space alone.
-/

namespace JavaHomes

open Launcher

variable {t : FileTree} {limit : Duration} {vendors : VendorTable} {space : SearchSpace}
  {i : Installation}

/-- The installations of a search space, as its launchers tell. -/
def SearchSpace.installations (t : FileTree) (limit : Duration) (vendors : VendorTable)
    (space : SearchSpace) : List Installation :=
  (Population.ofSpace t (probe limit vendors) .inTurn 0 space).installations

/-- Neither the order in which probes finish nor the probes before make a difference. -/
theorem Population.installations_ofSpace (finish : Completion) (calls : Nat) :
    (Population.ofSpace t (probe limit vendors) finish calls space).installations =
      space.installations t limit vendors := by
  have hascending : ∀ finish calls, Sorted.Ascending Installation.compareHomes
      (Population.ofSpace t (probe limit vendors) finish calls space).installations :=
    fun _ _ => ascending_ofOutcomes _
  refine (hascending finish calls).ext (hascending .inTurn 0) fun i => ?_
  rw [mem_installations_iff_probe]
  exact (mem_installations_iff_probe .inTurn 0).symm

namespace SearchSpace

theorem mem_installations (hspace : space.Resolved) :
    i ∈ space.installations t limit vendors ↔
      (∃ origin, space.LeadsTo t origin i.home) ∧
      Answers t limit vendors i.home ⟨i.vendor, i.version, i.bitness⟩ ∧
      (i.isCurrent = true ↔ space.current = some i.home) :=
  Population.mem_installations_ofSpace hspace .inTurn 0

theorem ascending_installations :
    Sorted.Ascending Installation.compareHomes (space.installations t limit vendors) :=
  Population.ascending_ofOutcomes _

theorem distinct_installations : Installation.Distinct (space.installations t limit vendors) :=
  ascending_installations.imp Path.not_same_of_lt

end SearchSpace

namespace Step

/-- Whether a step changes the file system. -/
def edits : Step → Bool
  | .change _ => true
  | _ => false

theorem edited_of_not_edits {a : Step} (h : a.edits = false) (t : FileTree) : a.edited t = t := by
  cases a <;> first | rfl | cases h

end Step

namespace Session

variable {s : Session} {a : Step}

/-- A session in which launchers are started on a file system that stays as it is: what it has found
is what there is. -/
structure Steady (t : FileTree) (limit : Duration) (vendors : VendorTable) (space : SearchSpace)
    (s : Session) : Prop where
  tree_eq : s.tree = t
  prober_eq : s.prober = probe limit vendors
  space_eq : s.registry.space = space
  found : ∀ p, s.registry.population = some p →
    p.installations = space.installations t limit vendors

theorem Steady.query_eq (h : Steady t limit vendors space s) :
    s.query.1.installations = space.installations t limit vendors := by
  cases hp : s.registry.population with
  | some p =>
    rw [query_of_some hp]
    exact h.found p hp
  | none =>
    rw [query_of_none hp, h.tree_eq, h.prober_eq, h.space_eq]
    exact Population.installations_ofSpace ..

theorem Steady.query (h : Steady t limit vendors space s) :
    Steady t limit vendors space s.query.2 := by
  cases hp : s.registry.population with
  | some p =>
    rw [query_of_some hp]
    exact h
  | none =>
    have hfound := h.query_eq
    rw [query_of_none hp] at hfound ⊢
    exact ⟨h.tree_eq, h.prober_eq, h.space_eq, fun p hp => Option.some.inj hp ▸ hfound⟩

theorem Steady.step (h : Steady t limit vendors space s) (ha : a.edits = false) :
    Steady t limit vendors space (s.step a).2 := by
  cases hasks : a.asks with
  | true =>
    rw [step_of_asks s hasks]
    exact h.query
  | false =>
    rw [step_of_not_asks s hasks]
    refine ⟨(Step.edited_of_not_edits ha _).trans h.tree_eq, h.prober_eq, h.space_eq, ?_⟩
    intro p hp
    cases hdrops : a.drops with
    | true =>
      rw [hdrops] at hp
      cases hp
    | false =>
      rw [hdrops] at hp
      exact h.found p hp

theorem Steady.run : ∀ {steps : List Step} {s : Session}, Steady t limit vendors space s →
    (∀ a ∈ steps, a.edits = false) → Steady t limit vendors space (s.run steps).2
  | [], _, h, _ => h
  | a :: rest, s, h, hsteps => by
    have hstep := h.step (hsteps a List.mem_cons_self)
    rw [Session.run]
    exact hstep.run fun b hb => hsteps b (List.mem_cons_of_mem a hb)

/-- Everybody who asks for all installations gets those of the search space. -/
theorem Steady.answer_installations (h : Steady t limit vendors space s) :
    ∃ scan, (s.step .installations).1 =
      .installations (space.installations t limit vendors) scan := by
  refine ⟨s.query.2.registry.scans, ?_⟩
  rw [step_of_asks s rfl, ← h.query_eq]
  rfl

end Session

namespace Service

variable {t₀ : FileTree} {env : Environment} {c : Config} {s : Service}

/-- A service that starts launchers is steady as long as nobody changes the file system. -/
theorem steady_run (hs : ofConfig t₀ env c = .ok s) (t : FileTree) (finish : Nat → Completion)
    {steps : List Step} (hsteps : ∀ a ∈ steps, a.edits = false) :
    ∃ vendors, VendorTable.ofPatterns c.probe.vendors = .ok vendors ∧
      s.prober = probe c.probe.timeout vendors ∧
      ((s.session t finish).run steps).2.Steady t c.probe.timeout vendors
        (c.searchSpace t₀ env) := by
  obtain ⟨vendors, hvendors, hprober, hregistry, -⟩ := ofConfig_eq_ok hs
  refine ⟨vendors, hvendors, hprober, Session.Steady.run ?_ hsteps⟩
  refine ⟨rfl, hprober, by rw [session, hregistry], fun p hp => ?_⟩
  rw [session, hregistry] at hp
  cases hp

end Service

end JavaHomes
