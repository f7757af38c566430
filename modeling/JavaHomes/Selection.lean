import JavaHomes.Registry

/-!
Selection: which installation a requirement gets. An explicit home is probed on its own and nothing
else is considered; otherwise the purpose decides between the installations that the constraint
admits.
-/

namespace JavaHomes

namespace Installation

/-- The choice for a build: the current home if it is among them, otherwise the first. -/
def forBuild? (newestFirst : List Installation) : Option Installation :=
  match newestFirst.find? Installation.isCurrent with
  | some i => some i
  | none => newestFirst.head?

/-- Shorter homes first, homes of the same length by their octets. -/
def compareSizes (a b : Installation) : Ordering :=
  (compare a.home.size b.home.size).then (compare a.home.octets b.home.octets)

/-- The first of the smallest elements of `a :: rest`. -/
def smallest (a : Installation) (rest : List Installation) : Installation :=
  rest.foldl (fun best i => if compareSizes i best == .lt then i else best) a

/-- The choice for a test: of the installations with the newest version the one with the shortest
home. -/
def forTest? (newestFirst : List Installation) : Option Installation :=
  match newestFirst with
  | [] => none
  | a :: rest => some (smallest a (rest.takeWhile fun i => i.version == a.version))

/-- The choice for a purpose. -/
def forPurpose? : Purpose → List Installation → Option Installation
  | .build => forBuild?
  | .test => forTest?

end Installation

namespace Registry

/-- The candidate that an explicit path stands for: the home that it leads to, or else the path as
it is. -/
def explicitCandidate (t : FileTree) (r : Registry) (path : Path) : Candidate :=
  let home := (Home.resolve? t path).getD path
  ⟨home, if r.space.current.any home.same then .current else .explicit⟩

/-- What the probe of an explicit home answers. `none` means that the probe broke off. -/
def explicitAnswer (path : Path) : Outcome → Option (Except SelectionFailure Installation)
  | .found i => some (.ok i)
  | .failed f => some (.error (.overrideInvalid path f))
  | .crashed => none

/-- The answer to a request that leaves the choice open. -/
def choose (purpose : Purpose) (constraint : Option Constraint) (all : List Installation) :
    Except SelectionFailure Installation :=
  match Installation.forPurpose? purpose (Installation.byVersion constraint all) with
  | some i => .ok i
  | none => .error (.noneFound purpose constraint)

/-- Answers a request. The registry changes only when its population is needed and missing. -/
def select (t : FileTree) (prober : Prober) (finish : Completion) (r : Registry) (q : Requirement) :
    Option (Except SelectionFailure Installation) × Registry :=
  match q.override with
  | some path =>
    let (outcome, r) := r.probe t prober (r.explicitCandidate t path)
    (explicitAnswer path outcome, r)
  | none =>
    match q.constraint.filter fun c => !c.isSatisfiable with
    | some c => (some (.error (.unsatisfiable c)), r)
    | none =>
      let (p, r) := r.query t prober finish
      (some (choose q.purpose q.constraint p.installations), r)

end Registry

end JavaHomes
