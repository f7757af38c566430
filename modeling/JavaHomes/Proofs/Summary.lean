import Mathlib.Data.Finset.Card
import JavaHomes.Proofs.Registry

/-!
What a population accounts for. Its installations sum up the reports of the probes that succeeded,
in whatever order they finished. In its summary every candidate either succeeds or counts as failed,
and those that ran out of time are among the failed. The installations that are counted are the
homes that were reported; they are as many as the probes that succeeded exactly when no two of these
report the same home.
-/

namespace JavaHomes

open Launcher

namespace Installation

variable {all reports installations : List Installation}

/-- The homes of some installations; two ways to write one home do not count as two. -/
def homes (all : List Installation) : Finset (List Path.Component) :=
  (all.map fun i => i.home.components).toFinset

theorem distinct_iff_nodup : Distinct all ↔ (all.map fun i => i.home.components).Nodup := by
  rw [Distinct, List.Nodup, List.pairwise_map]
  simp only [Path.same_iff, Path.compare_eq_eq, ne_eq]

theorem card_homes_le (all : List Installation) : (homes all).card ≤ all.length :=
  (List.toFinset_card_le _).trans_eq (List.length_map _)

/-- There are as many homes as installations exactly when no home is reported twice. -/
theorem card_homes_eq_length_iff : (homes all).card = all.length ↔ Distinct all := by
  rw [distinct_iff_nodup, ← Multiset.coe_nodup, ← Multiset.toFinset_card_eq_card_iff_nodup,
    Multiset.coe_card, List.length_map]
  rfl

theorem homes_perm (h : reports.Perm all) : homes reports = homes all :=
  List.toFinset_eq_of_perm _ _ (h.map _)

/-- What sums up some reports has their homes. -/
theorem SumsUp.homes_eq (h : SumsUp reports installations) :
    Installation.homes installations = Installation.homes reports := by
  have hmem : ∀ (xs : List Installation) (home : Path),
      (∃ i ∈ xs, i.home.same home) ↔ home.components ∈ Installation.homes xs := by
    intro xs home
    simp only [Installation.homes, List.mem_toFinset, List.mem_map, Path.same_iff,
      Path.compare_eq_eq]
  have hsub : ∀ xs ys : List Installation,
      (∀ home : Path, (∃ i ∈ xs, i.home.same home) → ∃ j ∈ ys, j.home.same home) →
        Installation.homes xs ⊆ Installation.homes ys := by
    intro xs ys himp steps hsteps
    obtain ⟨i, hi, rfl⟩ := List.mem_map.mp (List.mem_toFinset.mp hsteps)
    exact (hmem ys i.home).mp (himp i.home ⟨i, hi, Path.same_self _⟩)
  exact (hsub _ _ fun home => (h.homes home).mp).antisymm (hsub _ _ fun home => (h.homes home).mpr)

theorem SumsUp.length_eq (h : SumsUp reports installations) :
    installations.length = (Installation.homes reports).card := by
  have hdistinct : Distinct installations := h.ascending.imp Path.not_same_of_lt
  rw [← h.homes_eq, card_homes_eq_length_iff.mpr hdistinct]

end Installation

namespace Population

variable {parallel : Nat} {tasks finished : List Task}

/-- Whatever the probes come to and in whatever order they finish: the installations sum up the
reports of those that succeed; the others might as well not have run; and if no two of them report
the same home, the list does not depend on the order. This is how a registry makes its population,
whatever prober it has. -/
theorem installations_of_completes {parallel : Nat} {tasks finished : List Task}
    (h : Pool.Completes parallel tasks finished) :
    Installation.SumsUp (reports tasks) (ofTasks finished).installations ∧
    (Pool.Completes parallel (tasks.filter succeeds) (finished.filter succeeds) ∧
      (ofTasks (finished.filter succeeds)).installations = (ofTasks finished).installations) ∧
    ((reports tasks).Pairwise (fun a b => ¬ a.home.same b.home) →
      ∀ parallel' finished', Pool.Completes parallel' tasks finished' →
        (ofTasks finished').installations = (ofTasks finished).installations) ∧
    ∀ (r : Registry) (t : FileTree) (prober : Prober) (finish : Completion),
      ∃ tasks finished, Probed t prober r.space tasks ∧ Pool.Completes parallel tasks finished ∧
        (r.populate t prober finish).1 = ofTasks finished := by
  have hperm : finished.Perm tasks := Pool.completes_iff_perm.mp h
  refine ⟨?_, ⟨?_, ?_⟩, ?_, fun r t prober finish => ?_⟩
  · exact sumsUp_perm (reports_perm hperm) (sumsUp_ofTasks finished)
  · exact Pool.completes_iff_perm.mpr (hperm.filter _)
  · rw [installations_ofTasks, installations_ofTasks, reports_filter_succeeds]
  · intro hdistinct parallel' finished' h'
    have hperm' : finished'.Perm tasks := Pool.completes_iff_perm.mp h'
    have hdistinct' := (reports_perm hperm').symm.pairwise hdistinct Path.not_same_symm
    exact installations_perm hdistinct' (hperm'.trans hperm.symm)
  · exact Registry.populate_eq_ofTasks t prober finish r parallel

/-- Two homes that are told apart by a slash only, one of them current, and a probe that breaks
off. -/
def collidingTasks : List Task :=
  [(⟨⟨"/a"⟩, .searchPath⟩, .found ⟨⟨"/x"⟩, "A", ⟨17, 0, 0⟩, .bits64, false⟩),
    (⟨⟨"/b"⟩, .current⟩, .found ⟨⟨"/x/"⟩, "B", ⟨21, 0, 0⟩, .bits32, true⟩),
    (⟨⟨"/c"⟩, .environment⟩, .crashed)]

theorem installations_of_collidingTasks :
    Pool.Completes 1 collidingTasks collidingTasks.reverse ∧
      Installation.SumsUp (reports collidingTasks)
        (ofTasks collidingTasks.reverse).installations ∧
      (ofTasks collidingTasks.reverse).installations =
        [⟨⟨"/x/"⟩, "B", ⟨21, 0, 0⟩, .bits32, true⟩] := by
  have h : Pool.Completes 1 collidingTasks collidingTasks.reverse :=
    Pool.completes_iff_perm.mpr (by decide)
  exact ⟨h, (installations_of_completes h).1, by decide⟩

theorem length_reports (tasks : List Task) : (reports tasks).length = tasks.countP succeeds :=
  List.length_filterMap_eq_countP

/-- A probe that ran out of time did not succeed. -/
theorem not_succeeds_of_isTimeout {task : Task} (h : task.2.isTimeout = true) :
    succeeds task = false := by
  rw [succeeds]
  cases houtcome : task.2 with
  | found i =>
    rw [houtcome] at h
    cases h
  | failed f => rfl
  | crashed => rfl

/-- A probe fails or breaks off exactly if it does not succeed. -/
theorem isFailure_eq (task : Task) : task.2.isFailure = !succeeds task := by
  rw [succeeds]
  cases task.2 <;> rfl

/-- The counts of a population, each from the probes themselves. -/
theorem summary_ofTasks (finished : List Task) :
    (ofTasks finished).summary =
      { candidates := finished.length
        installations := (Installation.homes (reports finished)).card
        failed := finished.countP fun task => !succeeds task
        timedOut := finished.countP fun task => task.2.isTimeout } := by
  have hreports : (finished.map Prod.snd).filterMap Outcome.installation? = reports finished := by
    rw [List.filterMap_map]
    rfl
  have hinstallations := (sumsUp_ofTasks finished).length_eq
  rw [installations_ofTasks] at hinstallations
  have hfailed : finished.countP (Outcome.isFailure ∘ Prod.snd) =
      finished.countP fun task => !succeeds task :=
    List.countP_congr fun task _ => by rw [Function.comp_apply, isFailure_eq]
  rw [ofTasks, ofOutcomes, hreports, Summary.mk.injEq, List.length_map, List.countP_map,
    List.countP_map]
  exact ⟨rfl, hinstallations, hfailed, rfl⟩

/-- Whatever the probes come to and in whatever order they finish: all candidates are accounted for,
as successes or as failures, and those that ran out of time are among the failures. The
installations are the homes that were reported; they make up all successes, and together with the
failures all candidates, exactly when no two probes report the same home. The summary of a registry
is always one of these. -/
theorem summary_of_completes (h : Pool.Completes parallel tasks finished) :
    let summary := (ofTasks finished).summary
    (summary.candidates = tasks.length ∧
      summary.candidates = tasks.countP succeeds + summary.failed) ∧
    (summary.timedOut = tasks.countP (fun task => task.2.isTimeout) ∧
      summary.timedOut ≤ summary.failed) ∧
    (summary.installations = (Installation.homes (reports tasks)).card ∧
      summary.installations ≤ tasks.countP succeeds) ∧
    (summary.installations = tasks.countP succeeds ↔ Installation.Distinct (reports tasks)) ∧
    (summary.candidates = summary.installations + summary.failed ↔
      Installation.Distinct (reports tasks)) ∧
    ∀ (r : Registry) (t : FileTree) (prober : Prober) (finish : Completion),
      ∃ tasks finished, Probed t prober r.space tasks ∧ Pool.Completes parallel tasks finished ∧
        (r.populate t prober finish).1.summary = (ofTasks finished).summary := by
  intro summary
  have hperm : finished.Perm tasks := Pool.completes_iff_perm.mp h
  have hsummary : summary =
      { candidates := tasks.length
        installations := (Installation.homes (reports tasks)).card
        failed := tasks.countP fun task => !succeeds task
        timedOut := tasks.countP fun task => task.2.isTimeout } := by
    rw [← hperm.length_eq, ← Installation.homes_perm (reports_perm hperm), ← hperm.countP_eq,
      ← hperm.countP_eq]
    exact summary_ofTasks finished
  have hsplit := List.length_eq_countP_add_countP succeeds (l := tasks)
  simp only [Bool.not_eq_true, Bool.decide_eq_false] at hsplit
  have hdistinct : (Installation.homes (reports tasks)).card = tasks.countP succeeds ↔
      Installation.Distinct (reports tasks) := by
    rw [← length_reports]
    exact Installation.card_homes_eq_length_iff
  rw [hsummary]
  refine ⟨⟨rfl, hsplit⟩, ⟨rfl, ?_⟩, ⟨rfl, ?_⟩, hdistinct, ?_, fun r t prober finish => ?_⟩
  · refine List.countP_mono_left fun task _ htimeout => ?_
    rw [not_succeeds_of_isTimeout htimeout]
    rfl
  · rw [← length_reports]
    exact Installation.card_homes_le _
  · rw [← hdistinct, hsplit, Nat.add_right_cancel_iff, eq_comm]
  · obtain ⟨tasks, finished, hprobed, hcompletes, hpopulation⟩ :=
      Registry.populate_eq_ofTasks t prober finish r parallel
    exact ⟨tasks, finished, hprobed, hcompletes, congrArg Population.summary hpopulation⟩

/-- Two installations, a launcher that ran out of time, and a probe that breaks off. -/
def mixedTasks : List Task :=
  [(⟨⟨"/a"⟩, .searchPath⟩, .found ⟨⟨"/a"⟩, "A", ⟨17, 0, 0⟩, .bits64, false⟩),
    (⟨⟨"/b"⟩, .searchPath⟩, .failed (.timeout ⟨"/b/bin/java"⟩ (.ofMillis 150))),
    (⟨⟨"/c"⟩, .environment⟩, .crashed),
    (⟨⟨"/d"⟩, .current⟩, .found ⟨⟨"/d"⟩, "D", ⟨21, 0, 0⟩, .bits64, true⟩)]

theorem summary_of_mixedTasks :
    Pool.Completes 2 mixedTasks mixedTasks.reverse ∧
      Installation.Distinct (reports mixedTasks) ∧
      (ofTasks mixedTasks.reverse).summary.candidates = 4 ∧
      (ofTasks mixedTasks.reverse).summary.installations = 2 ∧
      (ofTasks mixedTasks.reverse).summary.failed = 2 ∧
      (ofTasks mixedTasks.reverse).summary.timedOut = 1 := by
  have h : Pool.Completes 2 mixedTasks mixedTasks.reverse :=
    Pool.completes_iff_perm.mpr (by decide)
  have hdistinct : Installation.Distinct (reports mixedTasks) := by decide
  obtain ⟨⟨hcandidates, hsplit⟩, ⟨htimedOut, -⟩, -, hsucceeded, -, -⟩ := summary_of_completes h
  have hfour : mixedTasks.length = 4 := rfl
  have htwo : mixedTasks.countP succeeds = 2 := rfl
  have hone : mixedTasks.countP (fun task => task.2.isTimeout) = 1 := rfl
  refine ⟨h, hdistinct, by rw [hcandidates, hfour], ?_, by omega, by rw [htimedOut, hone]⟩
  rw [hsucceeded.mpr hdistinct, htwo]

/-- Two probes that succeed and report the same home. -/
def twiceReported : List Task :=
  [(⟨⟨"/jdks/a"⟩, .searchPath⟩, .found ⟨⟨"/jdks/a"⟩, "Test", ⟨17, 0, 0⟩, .bits64, false⟩),
    (⟨⟨"/jdks/b"⟩, .searchPath⟩, .found ⟨⟨"/jdks/a"⟩, "Test", ⟨17, 0, 0⟩, .bits64, false⟩)]

/-- One of the two is counted neither as an installation nor as a failure. -/
theorem summary_of_twiceReported :
    let summary := (ofTasks twiceReported).summary
    Pool.Completes 4 twiceReported twiceReported ∧ summary = ⟨2, 1, 0, 0⟩ ∧
      summary.installations ≠ twiceReported.countP succeeds ∧
      summary.candidates ≠ summary.installations + summary.failed := by
  intro summary
  have h : Pool.Completes 4 twiceReported twiceReported :=
    Pool.completes_iff_perm.mpr (.refl _)
  have hsummary : summary = ⟨2, 1, 0, 0⟩ := by decide
  have hsucceeded : twiceReported.countP succeeds = 2 := rfl
  rw [hsummary, hsucceeded]
  exact ⟨h, rfl, by decide, by decide⟩

end Population

end JavaHomes
