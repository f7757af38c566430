import JavaHomes.Launcher.Probe
import JavaHomes.Scan

/-!
A population: the installations that a scan and the probes of its candidates led to, each home once,
together with the count of what happened.
-/

namespace JavaHomes

/-- What happened to the candidates of a scan. -/
structure Summary where
  candidates : Nat
  installations : Nat
  /-- Candidates whose probe failed or broke off. -/
  failed : Nat
  /-- Those among the failed whose launcher ran out of time. -/
  timedOut : Nat
  deriving DecidableEq, Repr

namespace Outcome

/-- The installation that a probe found. -/
def installation? : Outcome → Option Installation
  | found i => some i
  | _ => none

/-- Whether a probe failed or broke off. -/
def isFailure : Outcome → Bool
  | found _ => false
  | failed _ => true
  | crashed => true

/-- Whether the launcher ran out of time. -/
def isTimeout : Outcome → Bool
  | failed f => f.isTimeout
  | _ => false

end Outcome

namespace Installation

/-- The order of installations is that of their homes. -/
def compareHomes (a b : Installation) : Ordering :=
  a.home.compare b.home

/-- One installation for a home that was reported twice: the first report counts, and the home is
the current one if either report says so. -/
def merge (a b : Installation) : Installation :=
  { a with isCurrent := a.isCurrent || b.isCurrent }

end Installation

/-- The installations, ascending by home, and the summary. -/
structure Population where
  installations : List Installation
  summary : Summary
  deriving DecidableEq, Repr

namespace Population

/-- The population of some outcomes, in the order in which the probes finished. -/
def ofOutcomes (outcomes : List Outcome) : Population :=
  let found := outcomes.filterMap Outcome.installation?
  let installations := Sorted.ofList Installation.compareHomes Installation.merge found
  { installations
    summary :=
      { candidates := outcomes.length
        installations := installations.length
        failed := outcomes.countP Outcome.isFailure
        timedOut := outcomes.countP Outcome.isTimeout } }

end Population

/-- An order in which the probes of candidates may finish: every candidate has its turn once. -/
structure Completion where
  order : List Candidate → List Candidate
  perm : ∀ candidates, (order candidates).Perm candidates

/-- The order of the candidates themselves. -/
def Completion.inTurn : Completion :=
  ⟨id, fun _ => .refl _⟩

end JavaHomes
