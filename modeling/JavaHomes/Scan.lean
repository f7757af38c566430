import JavaHomes.Home
import JavaHomes.Sorted

/-!
The scan: which homes the search roots, the named hints and the host itself lead to. Nothing is
started; only the layout of the file system decides.
-/

namespace JavaHomes

/-- Where to look for homes. -/
structure SearchSpace where
  roots : List Path := []
  hints : List (String × Path) := []
  current : Option Path := none

namespace Candidate

/-- The order of candidates is that of their homes. -/
def compareHomes (a b : Candidate) : Ordering :=
  a.home.compare b.home

/-- One candidate for a home that was found twice: the stronger reason counts. -/
def merge (a b : Candidate) : Candidate :=
  { a with origin := a.origin.strongest b.origin }

end Candidate

namespace SearchSpace

/-- The homes among the subdirectories of a root. A root that cannot be listed has none. -/
def homesIn (t : FileTree) (root : Path) : List Path :=
  ((t.names? root).getD []).filterMap fun name =>
    let p := root.join name
    if t.isDirectory p then Home.resolve? t p else none

/-- Every home that the search space leads to, with the reason, once for each way to it. -/
def sightings (t : FileTree) (space : SearchSpace) : List Candidate :=
  (space.roots.flatMap (homesIn t)).map (⟨·, .searchPath⟩) ++
    (space.hints.filterMap fun hint => Home.resolve? t hint.2).map (⟨·, .environment⟩) ++
    space.current.toList.map (⟨·, .current⟩)

/-- The candidates, ascending by home and each home once, with the strongest reason for it. -/
def scan (t : FileTree) (space : SearchSpace) : List Candidate :=
  Sorted.ofList Candidate.compareHomes Candidate.merge (space.sightings t)

/-- A search space around a current home that is given by any path to it. -/
def withCurrent (t : FileTree) (space : SearchSpace) (current : Option Path) : SearchSpace :=
  { space with current := current.bind (Home.resolve? t) }

end SearchSpace

end JavaHomes
