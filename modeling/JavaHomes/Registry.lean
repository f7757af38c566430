import JavaHomes.Population

/-!
The registry of installations. Its population is made when it is first asked for and then kept until
it is dropped, whatever happens to the file system in between.
-/

namespace JavaHomes

/-- A search space with the population that has been made of it, if any. -/
structure Registry where
  space : SearchSpace
  population : Option Population := none
  /-- How many populations have been made. -/
  scans : Nat := 0
  /-- The candidates that the prober has been called with, in turn. -/
  probed : List Candidate := []

namespace Registry

/-- Calls the prober. -/
def probe (t : FileTree) (prober : Prober) (r : Registry) (c : Candidate) : Outcome × Registry :=
  (prober r.probed.length t c, { r with probed := r.probed ++ [c] })

/-- Calls the prober with several candidates in turn. -/
def probeEach (t : FileTree) (prober : Prober) (r : Registry) :
    List Candidate → List Outcome × Registry
  | [] => ([], r)
  | c :: rest =>
    let (outcome, r) := r.probe t prober c
    let (more, r) := r.probeEach t prober rest
    (outcome :: more, r)

/-- Makes a population of the search space as it is now; the probes finish in the given order. -/
def populate (t : FileTree) (prober : Prober) (finish : Completion) (r : Registry) :
    Population × Registry :=
  let (outcomes, r) := r.probeEach t prober (finish.order (r.space.scan t))
  let p := Population.ofOutcomes outcomes
  (p, { r with population := some p, scans := r.scans + 1 })

/-- The population, made now if there is none. -/
def query (t : FileTree) (prober : Prober) (finish : Completion) (r : Registry) :
    Population × Registry :=
  match r.population with
  | some p => (p, r)
  | none => r.populate t prober finish

/-- Drops the population. -/
def invalidate (r : Registry) : Registry :=
  { r with population := none }

end Registry

namespace Installation

/-- Newer versions first, homes in ascending order among equal versions. -/
def precedes (a b : Installation) : Bool :=
  ((compare b.version a.version).then (a.home.compare b.home)).isLE

/-- The installations that a constraint admits, newest first. -/
def byVersion (constraint : Option Constraint) (all : List Installation) : List Installation :=
  (all.filter fun i => constraint.all fun c => c.admits i.version).mergeSort precedes

end Installation

end JavaHomes
