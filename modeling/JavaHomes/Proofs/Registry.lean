import Mathlib.Data.List.Perm.Basic
import JavaHomes.Proofs.Population
import JavaHomes.Proofs.Selection

/-!
What the operations of a registry do to it. Asking for the population makes it when it is missing,
with one call of the prober for each candidate, and otherwise changes nothing; a request for an
explicit home costs one call and leaves the population alone.
-/

namespace JavaHomes

open Launcher

/-- What a prober answers to several calls in turn, when there were `calls` calls before. -/
def outcomesOf (prober : Prober) (t : FileTree) : (calls : Nat) → List Candidate → List Outcome
  | _, [] => []
  | calls, c :: rest => prober calls t c :: outcomesOf prober t (calls + 1) rest

/-- The population that is made of a search space. -/
def Population.ofSpace (t : FileTree) (prober : Prober) (finish : Completion) (calls : Nat)
    (space : SearchSpace) : Population :=
  .ofOutcomes (outcomesOf prober t calls (finish.order (space.scan t)))

/-- A prober that does not mind earlier calls answers each candidate on its own. -/
theorem outcomesOf_eq_map {prober : Prober} {t : FileTree} (h : ∀ calls, prober calls = prober 0) :
    ∀ (calls : Nat) (candidates : List Candidate),
      outcomesOf prober t calls candidates = candidates.map (prober 0 t)
  | _, [] => rfl
  | calls, c :: rest => by
    rw [outcomesOf, outcomesOf_eq_map h (calls + 1) rest, h calls, List.map_cons]

theorem length_outcomesOf (prober : Prober) (t : FileTree) :
    ∀ (calls : Nat) (candidates : List Candidate),
      (outcomesOf prober t calls candidates).length = candidates.length
  | _, [] => rfl
  | calls, c :: rest => by
    rw [outcomesOf, List.length_cons, List.length_cons, length_outcomesOf prober t _ rest]

/-- Each candidate stands beside what some call of the prober said about it. -/
theorem exists_of_mem_zip_outcomesOf {prober : Prober} {t : FileTree} {task : Task} :
    ∀ {calls : Nat} {candidates : List Candidate},
      task ∈ candidates.zip (outcomesOf prober t calls candidates) →
        ∃ call, task.2 = prober call t task.1
  | _, [], h => absurd h List.not_mem_nil
  | calls, c :: rest, h => by
    rw [outcomesOf, List.zip_cons_cons] at h
    rcases List.mem_cons.mp h with rfl | hrest
    · exact ⟨calls, rfl⟩
    · exact exists_of_mem_zip_outcomesOf hrest

/-- What the probes of a search space come to: each candidate of the scan is probed once. -/
structure Population.Probed (t : FileTree) (prober : Prober) (space : SearchSpace)
    (tasks : List Task) : Prop where
  candidates : tasks.map Prod.fst = space.scan t
  outcome : ∀ task ∈ tasks, ∃ call, task.2 = prober call t task.1

/-- However many probes run at the same time, the population of a search space is one that a pool
leads to: each candidate of the scan is a task, and the tasks finish in some order. -/
theorem Population.ofSpace_eq_ofTasks (t : FileTree) (prober : Prober) (finish : Completion)
    (calls : Nat) (space : SearchSpace) (parallel : Nat) :
    ∃ tasks finished, Probed t prober space tasks ∧ Pool.Completes parallel tasks finished ∧
      ofSpace t prober finish calls space = ofTasks finished := by
  have hlength := length_outcomesOf prober t calls (finish.order (space.scan t))
  have hcalls : ∀ task ∈ (finish.order (space.scan t)).zip
      (outcomesOf prober t calls (finish.order (space.scan t))),
        ∃ call, task.2 = prober call t task.1 := fun _ => exists_of_mem_zip_outcomesOf
  generalize houtcomes : outcomesOf prober t calls (finish.order (space.scan t)) = outcomes
    at hlength hcalls
  have hfst : ((finish.order (space.scan t)).zip outcomes).map Prod.fst =
      finish.order (space.scan t) := List.map_fst_zip hlength.ge
  have hsnd : ((finish.order (space.scan t)).zip outcomes).map Prod.snd = outcomes :=
    List.map_snd_zip hlength.le
  generalize (finish.order (space.scan t)).zip outcomes = finished at hfst hsnd hcalls
  have hperm : (space.scan t).Perm (finished.map Prod.fst) := by
    rw [hfst]
    exact (finish.perm _).symm
  obtain ⟨tasks, hscan, hfinished⟩ : Relation.Comp (fun candidates tasks => candidates =
      tasks.map Prod.fst) List.Perm (space.scan t) finished := by
    rw [List.eq_map_comp_perm]
    exact hperm
  refine ⟨tasks, finished, ⟨hscan.symm, fun task htask => ?_⟩,
    Pool.completes_iff_perm.mpr hfinished.symm, ?_⟩
  · exact hcalls task (hfinished.mem_iff.mp htask)
  · rw [ofSpace, houtcomes, ofTasks, hsnd]

namespace Registry

variable {t : FileTree} {prober : Prober} {finish : Completion} {r : Registry} {q : Requirement}

theorem probeEach_eq (t : FileTree) (prober : Prober) :
    ∀ (r : Registry) (candidates : List Candidate),
    r.probeEach t prober candidates =
      (outcomesOf prober t r.probed.length candidates, { r with probed := r.probed ++ candidates })
  | r, [] => by
    rw [probeEach, outcomesOf, List.append_nil]
  | r, c :: rest => by
    simp only [probeEach, probe]
    rw [probeEach_eq t prober _ rest, outcomesOf, List.length_append, List.length_singleton,
      List.append_assoc, List.singleton_append]

theorem populate_eq (t : FileTree) (prober : Prober) (finish : Completion) (r : Registry) :
    r.populate t prober finish =
      (Population.ofSpace t prober finish r.probed.length r.space,
        { r with
          population := some (Population.ofSpace t prober finish r.probed.length r.space)
          scans := r.scans + 1
          probed := r.probed ++ finish.order (r.space.scan t) }) := by
  rw [populate, probeEach_eq]
  rfl

/-- A registry makes its population of what the probes of its search space come to. -/
theorem populate_eq_ofTasks (t : FileTree) (prober : Prober) (finish : Completion) (r : Registry)
    (parallel : Nat) :
    ∃ tasks finished, Population.Probed t prober r.space tasks ∧
      Pool.Completes parallel tasks finished ∧
      (r.populate t prober finish).1 = .ofTasks finished := by
  rw [populate_eq]
  exact Population.ofSpace_eq_ofTasks t prober finish r.probed.length r.space parallel

theorem query_of_some {p : Population} (h : r.population = some p) :
    r.query t prober finish = (p, r) := by
  rw [query, h]

theorem query_of_none (h : r.population = none) :
    r.query t prober finish = r.populate t prober finish := by
  rw [query, h]

/-- Whoever asks for the population finds it in the registry afterwards. -/
theorem population_query (t : FileTree) (prober : Prober) (finish : Completion) (r : Registry) :
    (r.query t prober finish).2.population = some (r.query t prober finish).1 := by
  cases h : r.population with
  | none => rw [query_of_none h, populate_eq]
  | some p => rw [query_of_some h, h]

/-- What an explicit path stands for depends on the current home only. -/
theorem explicitCandidate_congr {r' : Registry} (h : r.space.current = r'.space.current)
    (t : FileTree) : explicitCandidate t r = explicitCandidate t r' := by
  funext path
  rw [explicitCandidate, explicitCandidate, h]

theorem select_of_override {path : Path} (h : q.override = some path) :
    r.select t prober finish q =
      (explicitAnswer path (prober r.probed.length t (r.explicitCandidate t path)),
        { r with probed := r.probed ++ [r.explicitCandidate t path] }) := by
  rw [select, h]
  rfl

theorem select_of_unsatisfiable {c : Constraint} (hoverride : q.override = none)
    (hc : q.constraint = some c) (hsat : c.isSatisfiable = false) :
    r.select t prober finish q = (some (.error (.unsatisfiable c)), r) := by
  rw [select, hoverride, hc, Option.filter_some_pos (by rw [hsat]; rfl)]

/-- The three ways of a request: an explicit home is probed, a constraint that nothing can satisfy
is refused, and otherwise the population decides. -/
theorem select_forms (t : FileTree) (prober : Prober) (finish : Completion) (r : Registry)
    (q : Requirement) :
    (∃ path, q.override = some path ∧
      r.select t prober finish q =
        (explicitAnswer path (prober r.probed.length t (r.explicitCandidate t path)),
          { r with probed := r.probed ++ [r.explicitCandidate t path] })) ∨
    (q.override = none ∧ ∃ c, q.constraint = some c ∧ c.isSatisfiable = false ∧
      r.select t prober finish q = (some (.error (.unsatisfiable c)), r)) ∨
    (q.override = none ∧ (∀ c ∈ q.constraint, c.isSatisfiable = true) ∧
      r.select t prober finish q =
        (some (choose q.purpose q.constraint (r.query t prober finish).1.installations),
          (r.query t prober finish).2)) := by
  cases hoverride : q.override with
  | some path => exact .inl ⟨path, rfl, select_of_override hoverride⟩
  | none =>
    by_cases hsat : ∀ c ∈ q.constraint, c.isSatisfiable = true
    · exact .inr (.inr ⟨rfl, hsat, select_eq_choose hoverride hsat⟩)
    · simp only [Option.mem_def, not_forall, Bool.not_eq_true] at hsat
      obtain ⟨c, hc, hunsat⟩ := hsat
      exact .inr (.inl ⟨rfl, c, hc, hunsat, select_of_unsatisfiable hoverride hc hunsat⟩)

end Registry

end JavaHomes
