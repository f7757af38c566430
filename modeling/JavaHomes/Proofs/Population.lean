import JavaHomes.Population
import JavaHomes.Proofs.Order
import JavaHomes.Proofs.Pool
import JavaHomes.Proofs.Sorted

/-!
What a population says about the probes that led to it. However the probes finish, the installations
sum up the reports: each reported home stands once, it counts as current when any report said so,
and its other fields come together from one report. Probes that failed or broke off leave no trace,
and when no two reports are about one home the order of finishing leaves none either.
-/

namespace JavaHomes

open Launcher

namespace Installation

theorem keepsKey_merge : Sorted.KeepsKey compareHomes merge :=
  fun _ _ _ => rfl

/-- Merging reports into a first one changes the mark of the current home only. -/
theorem foldl_merge (first : Installation) (rest : List Installation) :
    rest.foldl merge first =
      { first with isCurrent := first.isCurrent || rest.any Installation.isCurrent } := by
  induction rest generalizing first with
  | nil => simp
  | cons a rest ih =>
    rw [List.foldl_cons, ih, List.any_cons]
    simp only [merge, Bool.or_assoc]

theorem combined?_eq_some {reports : List Installation} {i : Installation}
    (h : Sorted.combined? merge reports = some i) :
    ∃ first ∈ reports, i = { first with isCurrent := reports.any Installation.isCurrent } := by
  match reports with
  | first :: rest =>
    rw [Sorted.combined?, foldl_merge, Option.some.injEq] at h
    exact ⟨first, List.mem_cons_self, by rw [← h, List.any_cons]⟩

/-- `installations` sums up what `reports` say about each home. -/
structure SumsUp (reports installations : List Installation) : Prop where
  ascending : installations.Pairwise fun a b => a.home.compare b.home = .lt
  homes : ∀ home : Path, (∃ i ∈ installations, i.home.same home) ↔ ∃ j ∈ reports, j.home.same home
  current : ∀ i ∈ installations,
    i.isCurrent = true ↔ ∃ j ∈ reports, j.home.same i.home ∧ j.isCurrent = true
  source : ∀ i ∈ installations, ∃ j ∈ reports,
    j.home = i.home ∧ j.vendor = i.vendor ∧ j.version = i.version ∧ j.bitness = i.bitness

end Installation

namespace Population

theorem ascending_ofOutcomes (outcomes : List Outcome) :
    (ofOutcomes outcomes).installations.Pairwise fun a b => a.home.compare b.home = .lt :=
  Sorted.ascending_ofList Installation.keepsKey_merge _

/-- When the probes of different homes report nothing but these, every report is an entry of its
own. -/
theorem mem_installations_ofOutcomes {candidates : List Candidate} {probe : Candidate → Outcome}
    {i : Installation} (hdistinct : candidates.Pairwise fun a b => ¬ a.home.same b.home)
    (hhome : ∀ c i, probe c = .found i → i.home = c.home) :
    i ∈ (ofOutcomes (candidates.map probe)).installations ↔
      ∃ c ∈ candidates, probe c = .found i := by
  have hfound : ∀ c j, (probe c).installation? = some j ↔ probe c = .found j := by
    intro c j
    cases probe c <;> simp [Outcome.installation?]
  have hreports : (candidates.filterMap fun c => (probe c).installation?).Pairwise
      fun a b => Installation.compareHomes a b ≠ .eq := by
    rw [List.pairwise_filterMap]
    refine hdistinct.imp fun {c d} hne a ha b hb heq => hne ?_
    rw [Path.same_iff, ← hhome c a ((hfound c a).mp ha), ← hhome d b ((hfound d b).mp hb)]
    exact heq
  rw [ofOutcomes, List.filterMap_map]
  refine (Sorted.mem_ofList_of_distinct Installation.keepsKey_merge hreports).trans ?_
  rw [List.mem_filterMap]
  exact exists_congr fun c => and_congr_right' (hfound c i)

/-- What the probes that succeeded report. -/
def reports (tasks : List Task) : List Installation :=
  tasks.filterMap fun task => task.2.installation?

/-- Whether the probe of a task succeeds. -/
def succeeds (task : Task) : Bool :=
  task.2.installation?.isSome

/-- The population that is made of probes as they finish. -/
def ofTasks (finished : List Task) : Population :=
  ofOutcomes (finished.map Prod.snd)

theorem installations_ofTasks (finished : List Task) :
    (ofTasks finished).installations =
      Sorted.ofList Installation.compareHomes Installation.merge (reports finished) := by
  rw [ofTasks, ofOutcomes, List.filterMap_map]
  rfl

theorem mem_installations_ofTasks {finished : List Task} {i : Installation}
    (h : i ∈ (ofTasks finished).installations) :
    ∃ first ∈ reports finished, first.home.compare i.home = .eq ∧
      i = { first with
        isCurrent := (Sorted.group Installation.compareHomes i (reports finished)).any
          Installation.isCurrent } := by
  rw [installations_ofTasks, Sorted.mem_ofList Installation.keepsKey_merge] at h
  obtain ⟨first, hfirst, hi⟩ := Installation.combined?_eq_some h
  obtain ⟨hmem, hkey⟩ := Sorted.mem_group.mp hfirst
  exact ⟨first, hmem, hkey, hi⟩

theorem sumsUp_ofTasks (finished : List Task) :
    Installation.SumsUp (reports finished) (ofTasks finished).installations where
  ascending := ascending_ofOutcomes _
  homes home := by
    have hkeys := Sorted.exists_mem_ofList Installation.keepsKey_merge
      ⟨home, "", ⟨0, 0, 0⟩, .bits64, false⟩ (reports finished)
    simp only [Path.same_iff]
    rw [installations_ofTasks]
    exact hkeys
  current i hi := by
    obtain ⟨first, -, -, heq⟩ := mem_installations_ofTasks hi
    have hcurrent := congrArg Installation.isCurrent heq
    simp only at hcurrent
    rw [hcurrent, List.any_eq_true]
    constructor
    · rintro ⟨j, hj, hcur⟩
      obtain ⟨hmem, hkey⟩ := Sorted.mem_group.mp hj
      exact ⟨j, hmem, Path.same_iff.mpr hkey, hcur⟩
    · rintro ⟨j, hmem, hsame, hcur⟩
      exact ⟨j, Sorted.mem_group.mpr ⟨hmem, Path.same_iff.mp hsame⟩, hcur⟩
  source i hi := by
    obtain ⟨first, hfirst, -, heq⟩ := mem_installations_ofTasks hi
    exact ⟨first, hfirst, by rw [heq], by rw [heq], by rw [heq], by rw [heq]⟩

theorem reports_perm {tasks finished : List Task} (h : finished.Perm tasks) :
    (reports finished).Perm (reports tasks) :=
  h.filterMap _

/-- Only the reports count, whatever order they come in. -/
theorem sumsUp_perm {reports reports' installations : List Installation}
    (h : reports.Perm reports') (hsum : Installation.SumsUp reports installations) :
    Installation.SumsUp reports' installations where
  ascending := hsum.ascending
  homes home := by
    rw [hsum.homes]
    exact exists_congr fun j => and_congr_left' h.mem_iff
  current i hi := by
    rw [hsum.current i hi]
    exact exists_congr fun j => and_congr_left' h.mem_iff
  source i hi := by
    obtain ⟨j, hj, hfields⟩ := hsum.source i hi
    exact ⟨j, h.mem_iff.mp hj, hfields⟩

theorem reports_filter_succeeds (finished : List Task) :
    reports (finished.filter succeeds) = reports finished := by
  induction finished with
  | nil => rfl
  | cons task rest ih =>
    rw [reports] at ih
    cases h : task.2.installation? with
    | none => simp [reports, succeeds, h, ih]
    | some i => simp [reports, succeeds, h, ih]

/-- Without two reports about one home, every order of finishing leads to the same list. -/
theorem installations_perm {finished finished' : List Task}
    (hdistinct : (reports finished).Pairwise fun a b => ¬ a.home.same b.home)
    (h : finished.Perm finished') :
    (ofTasks finished).installations = (ofTasks finished').installations := by
  rw [installations_ofTasks, installations_ofTasks]
  refine Sorted.ofList_perm Installation.keepsKey_merge (hdistinct.imp fun {a b} hab heq => ?_)
    (reports_perm h)
  exact hab (Path.same_iff.mpr heq)

end Population

end JavaHomes
