import Mathlib.Logic.Relation
import JavaHomes.Launcher.Probe

/-!
The pool that runs the probes of a scan. All of them are handed in at once, a bounded number runs at
the same time, and which probe starts or finishes next is left open.
-/

namespace JavaHomes.Launcher

/-- A candidate with what its probe comes to. -/
abbrev Task := Candidate × Outcome

/-- The probes that wait for a place, those that run, and those that have finished, in the order in
which they did. -/
structure Pool where
  waiting : List Task
  running : List Task
  finished : List Task

namespace Pool

/-- The pool in which nothing has started yet. -/
def ofTasks (tasks : List Task) : Pool :=
  ⟨tasks, [], []⟩

/-- One step of a pool with `parallel` places; there is always at least one. -/
inductive Step (parallel : Nat) : Pool → Pool → Prop where
  /-- Some waiting probe takes a free place. -/
  | launch {before after running finished : List Task} {task : Task}
      (free : running.length < max parallel 1) :
      Step parallel ⟨before ++ task :: after, running, finished⟩
        ⟨before ++ after, running ++ [task], finished⟩
  /-- Some running probe finishes, with an answer or by breaking off. -/
  | finish {waiting before after finished : List Task} {task : Task} :
      Step parallel ⟨waiting, before ++ task :: after, finished⟩
        ⟨waiting, before ++ after, finished ++ [task]⟩

/-- Several steps. -/
def Steps (parallel : Nat) : Pool → Pool → Prop :=
  Relation.ReflTransGen (Step parallel)

/-- The probes of `tasks` may finish in the order of `finished`. -/
def Completes (parallel : Nat) (tasks finished : List Task) : Prop :=
  Steps parallel (ofTasks tasks) ⟨[], [], finished⟩

end Pool

end JavaHomes.Launcher
