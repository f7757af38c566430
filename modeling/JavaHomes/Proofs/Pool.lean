import JavaHomes.Launcher.Pool

/-!
What a pool does to the probes that are handed in. No probe is lost or run twice, never more run at
the same time than there are places, and every order of finishing is possible: the number of places
bounds the load and nothing else.
-/

namespace JavaHomes.Launcher.Pool

variable {parallel : Nat}

/-- Every probe is in one place, and the running ones fit into theirs. -/
structure Valid (parallel : Nat) (tasks : List Task) (pool : Pool) : Prop where
  perm : (pool.waiting ++ pool.running ++ pool.finished).Perm tasks
  bounded : pool.running.length ≤ max parallel 1

theorem valid_ofTasks (tasks : List Task) : Valid parallel tasks (ofTasks tasks) :=
  ⟨by simp [ofTasks], Nat.zero_le _⟩

theorem valid_step {tasks : List Task} {pool pool' : Pool} (hstep : Step parallel pool pool')
    (hvalid : Valid parallel tasks pool) : Valid parallel tasks pool' := by
  obtain ⟨hperm, hbounded⟩ := hvalid
  cases hstep with
  | launch free =>
    refine ⟨.trans ?_ hperm, ?_⟩
    · rw [List.perm_iff_count]
      intro a
      simp only [List.count_append, List.count_cons, List.count_nil]
      omega
    · rw [List.length_append, List.length_singleton]
      exact free
  | finish =>
    refine ⟨.trans ?_ hperm, ?_⟩
    · rw [List.perm_iff_count]
      intro a
      simp only [List.count_append, List.count_cons, List.count_nil]
      omega
    · simp only [List.length_append, List.length_cons] at hbounded ⊢
      omega

theorem valid_steps {tasks : List Task} {pool pool' : Pool} (hsteps : Steps parallel pool pool')
    (hvalid : Valid parallel tasks pool) : Valid parallel tasks pool' := by
  induction hsteps with
  | refl => exact hvalid
  | tail _ hstep ih => exact valid_step hstep ih

/-- Probes that run one after the other finish in any order one likes. -/
theorem steps_one_by_one : ∀ {finished waiting done : List Task}, finished.Perm waiting →
    Steps parallel ⟨waiting, [], done⟩ ⟨[], [], done ++ finished⟩
  | [], waiting, done, h => by
    rw [h.symm.eq_nil, List.append_nil]
    exact .refl
  | task :: finished, waiting, done, h => by
    obtain ⟨before, after, rfl⟩ := List.append_of_mem (h.mem_iff.mp List.mem_cons_self)
    have hrest : finished.Perm (before ++ after) := (h.trans List.perm_middle).cons_inv
    have hlaunch : Step parallel ⟨before ++ task :: after, [], done⟩
        ⟨before ++ after, [task], done⟩ :=
      .launch (Nat.lt_of_lt_of_le Nat.one_pos (Nat.le_max_right ..))
    have hfinish : Step parallel ⟨before ++ after, [task], done⟩
        ⟨before ++ after, [], done ++ [task]⟩ :=
      @Step.finish _ _ [] [] _ _
    have hmore : Steps parallel ⟨before ++ after, [], done ++ [task]⟩
        ⟨[], [], done ++ [task] ++ finished⟩ := steps_one_by_one hrest
    rw [List.append_assoc] at hmore
    exact .head hlaunch (.head hfinish hmore)

/-- The orders in which probes may finish are all the orders there are. -/
theorem completes_iff_perm {tasks finished : List Task} :
    Completes parallel tasks finished ↔ finished.Perm tasks := by
  constructor
  · intro h
    exact (valid_steps h (valid_ofTasks tasks)).perm
  · intro h
    exact steps_one_by_one h

end JavaHomes.Launcher.Pool
