import Mathlib.Algebra.GroupWithZero.Nat
import Mathlib.Data.List.DropRight
import Mathlib.Data.List.Induction
import JavaHomes.Proofs.Registry
import JavaHomes.Proofs.Scan
import JavaHomes.Session

/-!
Runs of a session. The steps alone tell what a run has done to the registry: the population is there
exactly when it was asked for since it was last dropped, it is the one that the file system gave at
the first of those questions, and the prober was called once for each candidate of each scan and
once for each explicit home.
-/

namespace JavaHomes

open Launcher

namespace Step

/-- Whether a step cannot be answered without the population. -/
def asks : Step → Bool
  | .installations | .byVersion _ => true
  | .concurrent callers => callers != 0
  | .select q => q.override.isNone && q.constraint.all Constraint.isSatisfiable
  | .state | .invalidate | .change _ => false

/-- Whether a step gives up the population. -/
def drops : Step → Bool
  | .invalidate => true
  | _ => false

/-- The explicit home that a step is about. -/
def explicit? : Step → Option Path
  | .select q => q.override
  | _ => none

/-- The file system after a step. -/
def edited (t : FileTree) : Step → FileTree
  | .change edit => edit t
  | _ => t

/-- The answer to a step that asks, from the population with the given number. -/
def answerFrom (p : Population) (scan : Nat) : Step → Answer
  | .installations => .installations p.installations scan
  | .concurrent callers => .each (.replicate callers (p.installations, scan))
  | .byVersion constraint => .ordered (Installation.byVersion constraint p.installations)
  | .select q => .selected (some (Registry.choose q.purpose q.constraint p.installations))
  | .state | .invalidate | .change _ => .done

theorem not_drops_of_asks {a : Step} (h : a.asks = true) : a.drops = false := by
  cases a <;> first | rfl | cases h

theorem edited_of_asks {a : Step} (t : FileTree) (h : a.asks = true) : a.edited t = t := by
  cases a <;> first | rfl | cases h

theorem asks_select {q : Requirement} :
    (select q).asks = true ↔
      q.override = none ∧ ∀ c ∈ q.constraint, c.isSatisfiable = true := by
  rw [asks, Bool.and_eq_true, Option.isNone_iff_eq_none, Option.all_eq_true]
  rfl

theorem explicit?_of_asks {a : Step} (h : a.asks = true) : a.explicit? = none := by
  cases a with
  | select q => exact (asks_select.mp h).1
  | _ => rfl

end Step

namespace Session

variable {s : Session} {a : Step} {p : Population}

/-! ### One step -/

theorem query_eq (s : Session) :
    s.query = ((s.registry.query s.tree s.prober s.nextFinish).1,
      { s with registry := (s.registry.query s.tree s.prober s.nextFinish).2 }) :=
  rfl

theorem query_of_some (h : s.registry.population = some p) : s.query = (p, s) := by
  rw [query_eq, Registry.query_of_some h]

/-- A question leaves its population behind. -/
theorem population_query (s : Session) : s.query.2.registry.population = some s.query.1 :=
  Registry.population_query ..

/-- Asking again changes nothing. -/
theorem query_query (s : Session) : s.query.2.query = s.query :=
  query_of_some (population_query s)

theorem queryEach_of_some (h : s.registry.population = some p) : ∀ callers,
    queryEach callers s = (.replicate callers (p.installations, s.registry.scans), s)
  | 0 => rfl
  | callers + 1 => by
    rw [queryEach, query_of_some h]
    simp only [queryEach_of_some h callers]
    rfl

/-- Callers at once share one population. -/
theorem queryEach_succ (callers : Nat) (s : Session) :
    queryEach (callers + 1) s =
      (.replicate (callers + 1) (s.query.1.installations, s.query.2.registry.scans),
        s.query.2) := by
  have h := queryEach_of_some (population_query s) (callers + 1)
  rw [queryEach, query_query] at h
  rw [queryEach]
  exact h

theorem select_of_asks {q : Requirement} (h : (Step.select q).asks = true) :
    s.step (.select q) =
      (Step.answerFrom s.query.1 s.query.2.registry.scans (.select q), s.query.2) := by
  obtain ⟨hoverride, hsat⟩ := Step.asks_select.mp h
  rw [step, Registry.select_eq_choose hoverride hsat]
  rfl

/-- A step that asks is answered from the population that it leaves behind. -/
theorem step_of_asks (s : Session) (h : a.asks = true) :
    s.step a = (a.answerFrom s.query.1 s.query.2.registry.scans, s.query.2) := by
  cases a with
  | installations => rfl
  | concurrent callers =>
    match callers with
    | callers + 1 =>
      rw [step, queryEach_succ]
      rfl
  | byVersion constraint => rfl
  | select q => exact select_of_asks h
  | _ => cases h

/-- A step that does not ask drops the population or leaves it, and calls the prober for an explicit
home at most. -/
theorem step_of_not_asks (s : Session) (h : a.asks = false) :
    (s.step a).2 =
      { s with
        tree := a.edited s.tree
        registry :=
          { s.registry with
            population := if a.drops then none else s.registry.population
            probed := s.registry.probed ++
              (a.explicit?.map (s.registry.explicitCandidate s.tree)).toList } } := by
  cases a with
  | installations => cases h
  | concurrent callers =>
    have hzero : callers = 0 := by simpa [Step.asks] using h
    rw [hzero]
    simp [step, queryEach, Step.edited, Step.drops, Step.explicit?]
  | byVersion constraint => cases h
  | select q =>
    cases hoverride : q.override with
    | some path =>
      rw [step, Registry.select_of_override hoverride]
      simp [Step.edited, Step.drops, Step.explicit?, hoverride]
    | none =>
      have hall : q.constraint.all Constraint.isSatisfiable = false := by
        simpa [Step.asks, hoverride] using h
      cases hc : q.constraint with
      | none =>
        rw [hc] at hall
        cases hall
      | some c =>
        rw [hc, Option.all_some] at hall
        rw [step, Registry.select_of_unsatisfiable hoverride hc hall]
        simp [Step.edited, Step.drops, Step.explicit?, hoverride]
  | state => simp [step, Step.edited, Step.drops, Step.explicit?]
  | invalidate => simp [step, Step.edited, Step.drops, Step.explicit?, Registry.invalidate]
  | change edit => simp [step, Step.edited, Step.drops, Step.explicit?]

theorem query_of_none (h : s.registry.population = none) :
    s.query =
      (Population.ofSpace s.tree s.prober s.nextFinish s.registry.probed.length s.registry.space,
        { s with
          registry :=
            { s.registry with
              population := some (Population.ofSpace s.tree s.prober s.nextFinish
                s.registry.probed.length s.registry.space)
              scans := s.registry.scans + 1
              probed := s.registry.probed ++
                s.nextFinish.order (s.registry.space.scan s.tree) } }) := by
  rw [query_eq, Registry.query_of_none h, Registry.populate_eq]

/-! ### What the steps tell -/

/-- The file system after some steps. -/
def treeAfter (t : FileTree) (steps : List Step) : FileTree :=
  steps.foldl Step.edited t

/-- Whether the population was asked for since it was last dropped. -/
def asked (steps : List Step) : Bool :=
  (steps.rtakeWhile fun a => !a.drops).any Step.asks

/-- Each step with the steps before it. -/
def moments (before : List Step) : List Step → List (List Step × Step)
  | [] => []
  | a :: rest => (before, a) :: moments (before ++ [a]) rest

/-- The steps before each question that finds no population. -/
def firstQuestions (steps : List Step) : List (List Step) :=
  ((moments [] steps).filter fun m => m.2.asks && !asked m.1).map Prod.fst

/-- The explicit homes that were asked for, each with the steps before. -/
def explicitRequests (steps : List Step) : List (List Step × Path) :=
  (moments [] steps).filterMap fun m => m.2.explicit?.map (Prod.mk m.1)

theorem treeAfter_append (t : FileTree) (steps : List Step) (a : Step) :
    treeAfter t (steps ++ [a]) = a.edited (treeAfter t steps) := by
  rw [treeAfter, List.foldl_append]
  rfl

theorem asked_append (steps : List Step) (a : Step) :
    asked (steps ++ [a]) = (!a.drops && (asked steps || a.asks)) := by
  rw [asked, List.rtakeWhile_concat]
  cases h : a.drops with
  | true => simp
  | false => simp [asked]

theorem moments_append (a : Step) : ∀ before steps : List Step,
    moments before (steps ++ [a]) = moments before steps ++ [(before ++ steps, a)]
  | before, [] => by
    rw [List.append_nil]
    rfl
  | before, b :: steps => by
    rw [List.cons_append, moments, moments_append a (before ++ [b]) steps, moments,
      List.append_assoc]
    rfl

theorem firstQuestions_append (steps : List Step) (a : Step) :
    firstQuestions (steps ++ [a]) =
      firstQuestions steps ++ if a.asks && !asked steps then [steps] else [] := by
  rw [firstQuestions, moments_append, List.filter_append, List.map_append, List.nil_append,
    List.filter_singleton]
  cases a.asks && !asked steps <;> rfl

theorem explicitRequests_append (steps : List Step) (a : Step) :
    explicitRequests (steps ++ [a]) =
      explicitRequests steps ++ (a.explicit?.map (Prod.mk steps)).toList := by
  rw [explicitRequests, moments_append, List.filterMap_append, List.nil_append]
  cases h : a.explicit? <;> simp [explicitRequests, h]

theorem length_explicitRequests (steps : List Step) :
    (explicitRequests steps).length = steps.countP fun a => a.explicit?.isSome := by
  induction steps using List.reverseRecOn with
  | nil => rfl
  | append_singleton steps a ih =>
    rw [explicitRequests_append, List.length_append, ih, List.countP_append]
    cases h : a.explicit? <;> simp [h]

/-! ### Whole runs -/

/-- A session whose registry nobody has asked yet. -/
def fresh (t : FileTree) (prober : Prober) (finish : Nat → Completion) (space : SearchSpace) :
    Session :=
  { tree := t, prober, registry := { space }, finish }

/-- The candidates of the scans that some steps make necessary. -/
def scanned (t : FileTree) (space : SearchSpace) (steps : List Step) : List Candidate :=
  (firstQuestions steps).flatMap fun before => space.scan (treeAfter t before)

/-- The candidates that the explicit homes among some steps stand for. -/
def requested (t : FileTree) (space : SearchSpace) (steps : List Step) : List Candidate :=
  (explicitRequests steps).map fun m =>
    Registry.explicitCandidate (treeAfter t m.1) { space } m.2

/-- How a session stands after some steps from a fresh one. -/
structure After (t : FileTree) (prober : Prober) (finish : Nat → Completion) (space : SearchSpace)
    (steps : List Step) (s : Session) : Prop where
  tree_eq : s.tree = treeAfter t steps
  prober_eq : s.prober = prober
  finish_eq : s.finish = finish
  space_eq : s.registry.space = space
  populated : s.registry.population.isSome = asked steps
  scans_eq : s.registry.scans = (firstQuestions steps).length
  probed_perm : s.registry.probed.Perm (scanned t space steps ++ requested t space steps)

theorem scanned_append (t : FileTree) (space : SearchSpace) (steps : List Step) (a : Step) :
    scanned t space (steps ++ [a]) =
      scanned t space steps ++
        if a.asks && !asked steps then space.scan (treeAfter t steps) else [] := by
  rw [scanned, firstQuestions_append, List.flatMap_append]
  cases a.asks && !asked steps <;> simp [scanned]

theorem requested_append (t : FileTree) (space : SearchSpace) (steps : List Step) (a : Step) :
    requested t space (steps ++ [a]) =
      requested t space steps ++
        (a.explicit?.map (Registry.explicitCandidate (treeAfter t steps) { space })).toList := by
  rw [requested, explicitRequests_append, List.map_append]
  cases a.explicit? <;> rfl

section

variable {t : FileTree} {prober : Prober} {finish : Nat → Completion} {space : SearchSpace}
  {steps : List Step}

theorem after_fresh : After t prober finish space [] (fresh t prober finish space) where
  tree_eq := rfl
  prober_eq := rfl
  finish_eq := rfl
  space_eq := rfl
  populated := rfl
  scans_eq := rfl
  probed_perm := .nil

/-- A question to a session that has its population changes nothing. -/
theorem after_step_of_some (h : After t prober finish space steps s) (ha : a.asks = true)
    (hp : s.registry.population = some p) :
    After t prober finish space (steps ++ [a]) (s.step a).2 := by
  have hasked : asked steps = true := by rw [← h.populated, hp, Option.isSome_some]
  rw [step_of_asks s ha, query_of_some hp]
  exact {
    tree_eq := by rw [treeAfter_append, Step.edited_of_asks _ ha, h.tree_eq]
    prober_eq := h.prober_eq
    finish_eq := h.finish_eq
    space_eq := h.space_eq
    populated := by
      rw [h.populated, asked_append, Step.not_drops_of_asks ha, hasked]
      rfl
    scans_eq := by
      rw [firstQuestions_append, ha, hasked, h.scans_eq]
      simp
    probed_perm := by
      rw [scanned_append, requested_append, Step.explicit?_of_asks ha, ha, hasked]
      simpa using h.probed_perm }

/-- A question to a session without a population has one made, of the file system as it is. -/
theorem after_step_of_none (h : After t prober finish space steps s) (ha : a.asks = true)
    (hp : s.registry.population = none) :
    After t prober finish space (steps ++ [a]) (s.step a).2 := by
  have hasked : asked steps = false := by rw [← h.populated, hp, Option.isSome_none]
  rw [step_of_asks s ha, query_of_none hp]
  exact {
    tree_eq := by rw [treeAfter_append, Step.edited_of_asks _ ha, h.tree_eq]
    prober_eq := h.prober_eq
    finish_eq := h.finish_eq
    space_eq := h.space_eq
    populated := by
      rw [asked_append, Step.not_drops_of_asks ha, ha]
      simp
    scans_eq := by
      rw [firstQuestions_append, ha, hasked, h.scans_eq]
      simp
    probed_perm := by
      rw [scanned_append, requested_append, Step.explicit?_of_asks ha, ha, hasked]
      have hscan : (s.nextFinish.order (s.registry.space.scan s.tree)).Perm
          (space.scan (treeAfter t steps)) := by
        rw [h.space_eq, h.tree_eq]
        exact s.nextFinish.perm _
      simp only [Bool.not_false, Bool.and_true, if_true, Option.map_none, Option.toList_none,
        List.append_nil]
      calc s.registry.probed ++ s.nextFinish.order (s.registry.space.scan s.tree)
        _ |>.Perm ((scanned t space steps ++ requested t space steps) ++
            space.scan (treeAfter t steps)) := h.probed_perm.append hscan
        _ |>.Perm ((scanned t space steps ++ space.scan (treeAfter t steps)) ++
            requested t space steps) := by
          rw [List.append_assoc, List.append_assoc]
          exact List.perm_append_comm.append_left _ }

theorem after_step_of_not_asks (h : After t prober finish space steps s) (ha : a.asks = false) :
    After t prober finish space (steps ++ [a]) (s.step a).2 := by
  rw [step_of_not_asks s ha]
  exact {
    tree_eq := by rw [treeAfter_append, h.tree_eq]
    prober_eq := h.prober_eq
    finish_eq := h.finish_eq
    space_eq := h.space_eq
    populated := by
      rw [asked_append, ha, ← h.populated]
      cases a.drops <;> simp
    scans_eq := by
      rw [firstQuestions_append, ha, h.scans_eq]
      simp
    probed_perm := by
      have hexplicit : Registry.explicitCandidate s.tree s.registry =
          Registry.explicitCandidate (treeAfter t steps) { space } := by
        rw [h.tree_eq]
        exact Registry.explicitCandidate_congr (congrArg SearchSpace.current h.space_eq) _
      rw [scanned_append, requested_append, ha]
      simp only [Bool.false_and, Bool.false_eq_true, if_false, List.append_nil]
      rw [hexplicit, ← List.append_assoc]
      exact h.probed_perm.append_right _ }

theorem after_step (h : After t prober finish space steps s) (a : Step) :
    After t prober finish space (steps ++ [a]) (s.step a).2 := by
  cases ha : a.asks with
  | false => exact after_step_of_not_asks h ha
  | true =>
    cases hp : s.registry.population with
    | none => exact after_step_of_none h ha hp
    | some p => exact after_step_of_some h ha hp

theorem run_append (s : Session) : ∀ xs ys : List Step,
    s.run (xs ++ ys) = ((s.run xs).1 ++ ((s.run xs).2.run ys).1, ((s.run xs).2.run ys).2)
  | [], ys => rfl
  | x :: xs, ys => by
    rw [List.cons_append, run, run]
    simp only [run_append _ xs ys, List.cons_append]

theorem length_run (s : Session) : ∀ steps : List Step, (s.run steps).1.length = steps.length
  | [] => rfl
  | a :: rest => by
    rw [run, List.length_cons, List.length_cons, length_run _ rest]

theorem after_run (t : FileTree) (prober : Prober) (finish : Nat → Completion)
    (space : SearchSpace) (steps : List Step) :
    After t prober finish space steps ((fresh t prober finish space).run steps).2 := by
  induction steps using List.reverseRecOn with
  | nil => exact after_fresh
  | append_singleton steps a ih =>
    rw [run_append]
    exact after_step ih a

/-! ### Answers -/

/-- What a question right after some steps finds when nobody has asked since the last drop. -/
def snapshot (t : FileTree) (prober : Prober) (finish : Nat → Completion) (space : SearchSpace)
    (before : List Step) : Population :=
  .ofSpace (treeAfter t before) prober (finish (firstQuestions before).length)
    (scanned t space before ++ requested t space before).length space

/-- A question that nobody has asked since the last drop finds the snapshot of that moment. -/
theorem query_of_unasked (h : After t prober finish space steps s) (hasked : asked steps = false) :
    s.query.1 = snapshot t prober finish space steps := by
  have hnone : s.registry.population = none := by
    rw [← Option.not_isSome_iff_eq_none, h.populated, hasked]
    decide
  rw [query_of_none hnone, snapshot, nextFinish, h.tree_eq, h.prober_eq, h.finish_eq, h.space_eq,
    h.scans_eq, h.probed_perm.length_eq]

/-- `first` is the first question since the population was last dropped. -/
structure FirstAsked (steps before : List Step) (first : Step) (rest : List Step) : Prop where
  split : steps = before ++ first :: rest
  asks : first.asks = true
  unasked : asked before = false
  kept : ∀ a ∈ rest, a.drops = false

/-- Every question that was asked since the last drop goes back to a first one. -/
theorem exists_firstAsked {steps : List Step} (h : asked steps = true) :
    ∃ before first rest, FirstAsked steps before first rest := by
  induction steps using List.reverseRecOn with
  | nil => cases h
  | append_singleton steps a ih =>
    rw [asked_append, Bool.and_eq_true, Bool.not_eq_true', Bool.or_eq_true] at h
    obtain ⟨hkept, hasked⟩ := h
    cases hbefore : asked steps with
    | true =>
      obtain ⟨before, first, rest, hfirst⟩ := ih hbefore
      refine ⟨before, first, rest ++ [a], by rw [hfirst.split]; simp, hfirst.asks, hfirst.unasked,
        ?_⟩
      intro b hb
      rcases List.mem_append.mp hb with hrest | hlast
      · exact hfirst.kept b hrest
      · rw [List.mem_singleton.mp hlast]
        exact hkept
    | false =>
      rw [hbefore] at hasked
      have ha : a.asks = true := hasked.resolve_left Bool.false_ne_true
      exact ⟨steps, a, [], rfl, ha, hbefore, fun _ hb => by cases hb⟩

/-- While nobody drops it, the population stays and every question is answered from it. -/
theorem run_of_some : ∀ {steps : List Step} {s : Session},
    s.registry.population = some p → (∀ a ∈ steps, a.drops = false) →
    (s.run steps).2.registry.population = some p ∧
    ∀ (n : Nat) (a : Step), steps[n]? = some a → a.asks = true →
      (s.run steps).1[n]? = some (a.answerFrom p s.registry.scans)
  | [], _, hp, _ => ⟨hp, fun n a ha => by rw [List.getElem?_nil] at ha; cases ha⟩
  | b :: rest, s, hp, hkept => by
    have hb : b.drops = false := hkept b List.mem_cons_self
    have hstep : (s.step b).2.registry.population = some p ∧
        (s.step b).2.registry.scans = s.registry.scans := by
      cases hasks : b.asks with
      | true =>
        rw [step_of_asks s hasks, query_of_some hp]
        exact ⟨hp, rfl⟩
      | false =>
        rw [step_of_not_asks s hasks, hb]
        exact ⟨hp, rfl⟩
    obtain ⟨hrun, hanswers⟩ := run_of_some hstep.1 fun a ha => hkept a (List.mem_cons_of_mem b ha)
    refine ⟨hrun, fun n a ha hasks => ?_⟩
    match n with
    | 0 =>
      rw [List.getElem?_cons_zero, Option.some.injEq] at ha
      rw [run, ha, step_of_asks s hasks, query_of_some hp]
      rfl
    | n + 1 =>
      rw [List.getElem?_cons_succ] at ha
      rw [run, List.getElem?_cons_succ, hanswers n a ha hasks, hstep.2]

/-- A run that starts with a question makes the population first. -/
theorem run_of_asks (s : Session) (h : a.asks = true) (rest : List Step) :
    s.run (a :: rest) = s.query.2.run (a :: rest) := by
  rw [run, run, step_of_asks s h, step_of_asks s.query.2 h, query_query]

/-- What was made at the first question answers all questions until it is dropped. -/
theorem run_of_firstAsked {steps before rest : List Step} {first : Step}
    (h : FirstAsked steps before first rest) :
    ((fresh t prober finish space).run steps).2.registry.population =
      some (snapshot t prober finish space before) ∧
    ∀ (n : Nat) (a : Step), before.length ≤ n → steps[n]? = some a → a.asks = true →
      ((fresh t prober finish space).run steps).1[n]? =
        some (a.answerFrom (snapshot t prober finish space before)
          ((firstQuestions before).length + 1)) := by
  have hbefore := after_run t prober finish space before
  have hlength := length_run (fresh t prober finish space) before
  -- asking once before the first question changes no answer, and then all that follows is a run
  -- that starts with its population
  rw [h.split, run_append, run_of_asks _ h.asks]
  generalize (fresh t prober finish space).run before = ran at hbefore hlength
  obtain ⟨answers, s⟩ := ran
  have hnone : s.registry.population = none := by
    rw [← Option.not_isSome_iff_eq_none, hbefore.populated, h.unasked]
    decide
  have hsnapshot : s.query.1 = snapshot t prober finish space before :=
    query_of_unasked hbefore h.unasked
  have hscans : s.query.2.registry.scans = (firstQuestions before).length + 1 := by
    rw [query_of_none hnone, hbefore.scans_eq]
  have hkept : ∀ a ∈ first :: rest, a.drops = false := by
    intro a ha
    rcases List.mem_cons.mp ha with rfl | hrest
    · exact Step.not_drops_of_asks h.asks
    · exact h.kept a hrest
  obtain ⟨hpopulation, hanswers⟩ := run_of_some (population_query s) hkept
  rw [hsnapshot] at hpopulation hanswers
  refine ⟨hpopulation, fun n a hn ha hasks => ?_⟩
  rw [List.getElem?_append_right hn] at ha
  rw [List.getElem?_append_right (by rw [hlength]; exact hn), hlength, ← hscans]
  exact hanswers _ a ha hasks

/-- Whatever was asked before: what a question finds was made at some moment of the session, of the
file system as it was then. -/
theorem exists_query_eq (t : FileTree) (prober : Prober) (finish : Nat → Completion)
    (space : SearchSpace) (steps : List Step) :
    ∃ before, before <+: steps ∧
      ((fresh t prober finish space).run steps).2.query.1 =
        snapshot t prober finish space before := by
  cases hasked : asked steps with
  | true =>
    obtain ⟨before, first, rest, hfirst⟩ := exists_firstAsked hasked
    have hpopulation : ((fresh t prober finish space).run steps).2.registry.population =
        some (snapshot t prober finish space before) := (run_of_firstAsked hfirst).1
    exact ⟨before, ⟨first :: rest, hfirst.split.symm⟩, by rw [query_of_some hpopulation]⟩
  | false =>
    exact ⟨steps, List.prefix_rfl, query_of_unasked (after_run t prober finish space steps) hasked⟩

/-- Every prober call is one of a scan or one for an explicit home. -/
theorem probes_eq (h : After t prober finish space steps s) :
    s.state.probes =
      ((firstQuestions steps).map fun before => (space.scan (treeAfter t before)).length).sum +
        steps.countP fun a => a.explicit?.isSome := by
  rw [state, h.probed_perm.length_eq, List.length_append, scanned, List.length_flatMap, requested,
    List.length_map, length_explicitRequests]

end

/-- Whatever the steps are and whatever they do to the file system: the population is there exactly
when it was asked for since it was last dropped; every question since then is answered from what the
file system gave at the first of them; and the prober was called once for each candidate of each of
these scans and once for each explicit home. -/
theorem run_keeps_snapshot (t : FileTree) (prober : Prober) (finish : Nat → Completion)
    (space : SearchSpace) (steps : List Step) :
    let ran := (fresh t prober finish space).run steps
    (ran.2.registry.population.isSome = asked steps ∧ ran.2.state.summary.isSome = asked steps) ∧
    (asked steps = true →
      ∃ before first rest, FirstAsked steps before first rest ∧
        ran.2.registry.population = some (snapshot t prober finish space before) ∧
        ran.2.state.summary = some (snapshot t prober finish space before).summary ∧
        ∀ (n : Nat) (a : Step), before.length ≤ n → steps[n]? = some a → a.asks = true →
          ran.1[n]? = some (a.answerFrom (snapshot t prober finish space before)
            ((firstQuestions before).length + 1))) ∧
    ran.2.registry.probed.Perm (scanned t space steps ++ requested t space steps) ∧
    ran.2.state.probes =
      ((firstQuestions steps).map fun before => (space.scan (treeAfter t before)).length).sum +
        steps.countP (fun a => a.explicit?.isSome) ∧
    ∀ before ∈ firstQuestions steps,
      (space.scan (treeAfter t before)).Pairwise fun a b => ¬ a.home.same b.home := by
  intro ran
  have hafter := after_run t prober finish space steps
  refine ⟨⟨hafter.populated, ?_⟩, fun hasked => ?_, hafter.probed_perm, probes_eq hafter,
    fun before _ => SearchSpace.distinct_scan _ space⟩
  · rw [state, Option.isSome_map]
    exact hafter.populated
  · obtain ⟨before, first, rest, hfirst⟩ := exists_firstAsked hasked
    obtain ⟨hpopulation, hanswers⟩ := run_of_firstAsked (t := t) hfirst
    refine ⟨before, first, rest, hfirst, hpopulation, ?_, hanswers⟩
    rw [state, hpopulation]
    rfl

end Session

end JavaHomes
