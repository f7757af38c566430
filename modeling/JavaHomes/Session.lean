import JavaHomes.Selection

/-!
Sessions: a registry and a file system over a row of steps. Questions may make the registry's
population; only `invalidate` drops it, and only `change` touches the file system.
-/

namespace JavaHomes

/-- A registry at work. -/
structure Session where
  tree : FileTree
  prober : Prober
  registry : Registry
  /-- How the probes of each population finish, by its number. -/
  finish : Nat → Completion := fun _ => .inTurn

/-- One step of a session. -/
inductive Step where
  /-- Asks for all installations. -/
  | installations
  /-- Asks for all installations so many times at once. -/
  | concurrent (callers : Nat)
  /-- Asks for the installations that a constraint admits, newest first. -/
  | byVersion (constraint : Option Constraint)
  | select (requirement : Requirement)
  /-- Asks what has happened so far. -/
  | state
  | invalidate
  /-- Changes the file system. -/
  | change (edit : FileTree → FileTree)

/-- What is known about a registry without asking for its population. -/
structure State where
  summary : Option Summary
  current : Option Path
  probes : Nat

/-- The answer to a step. -/
inductive Answer where
  /-- The installations of the population with the given number. -/
  | installations (all : List Installation) (scan : Nat)
  /-- The same to every caller. -/
  | each (all : List (List Installation × Nat))
  | ordered (all : List Installation)
  /-- The result of a selection; none if its probe broke off. -/
  | selected (result : Option (Except SelectionFailure Installation))
  | state (state : State)
  | done

namespace Session

/-- How the probes of the next population finish. -/
def nextFinish (s : Session) : Completion :=
  s.finish s.registry.scans

/-- Asks for the population. -/
def query (s : Session) : Population × Session :=
  let (p, registry) := s.registry.query s.tree s.prober s.nextFinish
  (p, { s with registry })

/-- What is known about the registry now. -/
def state (s : Session) : State :=
  { summary := s.registry.population.map Population.summary
    current := s.registry.space.current
    probes := s.registry.probed.length }

/-- Answers several callers one after the other. -/
def queryEach : (callers : Nat) → Session → List (List Installation × Nat) × Session
  | 0, s => ([], s)
  | callers + 1, s =>
    let (p, s) := s.query
    let (more, s') := queryEach callers s
    ((p.installations, s.registry.scans) :: more, s')

/-- Takes one step. -/
def step (s : Session) : Step → Answer × Session
  | .installations =>
    let (p, s) := s.query
    (.installations p.installations s.registry.scans, s)
  | .concurrent callers =>
    let (all, s) := queryEach callers s
    (.each all, s)
  | .byVersion constraint =>
    let (p, s) := s.query
    (.ordered (Installation.byVersion constraint p.installations), s)
  | .select requirement =>
    let (result, registry) := s.registry.select s.tree s.prober s.nextFinish requirement
    (.selected result, { s with registry })
  | .state => (.state s.state, s)
  | .invalidate => (.done, { s with registry := s.registry.invalidate })
  | .change edit => (.done, { s with tree := edit s.tree })

/-- Takes several steps in turn. -/
def run (s : Session) : List Step → List Answer × Session
  | [] => ([], s)
  | a :: rest =>
    let (answer, s) := s.step a
    let (more, s) := s.run rest
    (answer :: more, s)

end Session

end JavaHomes
