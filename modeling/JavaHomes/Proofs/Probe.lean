import JavaHomes.Proofs.Population
import JavaHomes.Proofs.Scan

/-!
What probes of launchers find. A probe finds an installation exactly when the launcher is an
executable file that starts, exits in time and says what it belongs to; the installation then stands
at the home of the candidate with what that launcher said. The launchers of one scan belong to
different homes, so no report is merged into another.
-/

namespace JavaHomes

namespace Launcher

variable {limit : Duration} {vendors : VendorTable} {t : FileTree} {c : Candidate}
  {i : Installation}

/-- The launcher of a home is a file that may be executed, starts, exits within the limit, and what
it writes can be read as a report. -/
inductive Answers (t : FileTree) (limit : Duration) (vendors : VendorTable) (home : Path)
    (report : Report) : Prop
  | intro {file : File} {stdout stderr : List UInt8} {millis : Nat} :
      t.file? home.launcher = some file → file.executable = true →
      file.program arguments = .output stdout stderr millis →
      (Duration.ofMillis millis).nanos ≤ limit.nanos →
      Report.ofOutput? vendors (combined stdout stderr) = some report →
      Answers t limit vendors home report

/-- A launcher gives one answer. -/
theorem Answers.unique {home : Path} {report report' : Report}
    (h : Answers t limit vendors home report) (h' : Answers t limit vendors home report') :
    report = report' := by
  obtain ⟨hfile, -, hresponse, -, hreport⟩ := h
  obtain ⟨hfile', -, hresponse', -, hreport'⟩ := h'
  cases hfile.symm.trans hfile'
  cases hresponse.symm.trans hresponse'
  exact Option.some.inj (hreport.symm.trans hreport')

/-- An installation is found when the response is in time and can be read. -/
theorem judge_eq_found {stdout stderr : List UInt8} {millis : Nat} :
    judge limit vendors c (.output stdout stderr millis) = .found i ↔
      (Duration.ofMillis millis).nanos ≤ limit.nanos ∧
      Report.ofOutput? vendors (combined stdout stderr) = some ⟨i.vendor, i.version, i.bitness⟩ ∧
      i.home = c.home ∧ i.isCurrent = c.isCurrent := by
  obtain ⟨home, vendor, version, bitness, current⟩ := i
  rw [judge]
  by_cases hlate : limit.nanos < (Duration.ofMillis millis).nanos
  · rw [if_pos hlate]
    constructor
    · intro h
      cases h
    · rintro ⟨hintime, -⟩
      exact absurd hlate (Nat.not_lt.mpr hintime)
  · rw [if_neg hlate]
    cases Report.ofOutput? vendors (combined stdout stderr) with
    | none => simp
    | some report =>
      obtain ⟨vendor', version', bitness'⟩ := report
      have hintime := Nat.le_of_not_lt hlate
      simp [hintime, eq_comm, and_assoc, and_comm, and_left_comm]

theorem probe_eq_found (calls : Nat) :
    probe limit vendors calls t c = .found i ↔
      Answers t limit vendors c.home ⟨i.vendor, i.version, i.bitness⟩ ∧
      i.home = c.home ∧ i.isCurrent = c.isCurrent := by
  rw [probe]
  constructor
  · intro h
    cases hfile : t.file? c.launcher with
    | none => simp [hfile] at h
    | some file =>
      cases hexecutable : file.executable with
      | false => simp [hfile, hexecutable] at h
      | true =>
        simp only [hfile, hexecutable, if_true] at h
        cases hresponse : file.program arguments with
        | refused => simp [hresponse, judge] at h
        | output stdout stderr millis =>
          rw [hresponse, judge_eq_found] at h
          obtain ⟨hintime, hreport, hhome, hcurrent⟩ := h
          exact ⟨.intro hfile hexecutable hresponse hintime hreport, hhome, hcurrent⟩
  · rintro ⟨⟨hfile, hexecutable, hresponse, hintime, hreport⟩, hhome, hcurrent⟩
    rw [Candidate.launcher, hfile]
    simp only [hexecutable, if_true]
    rw [hresponse]
    exact judge_eq_found.mpr ⟨hintime, hreport, hhome, hcurrent⟩

end Launcher

end JavaHomes
