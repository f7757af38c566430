import JavaHomes.Environment
import JavaHomes.FileTree.Basic
import JavaHomes.Installation

/-!
Java homes on disk. A home is a directory with a file `bin/java`; a bundle keeps its home two levels
further down, and a path to the bundle means the home inside it.
-/

namespace JavaHomes.Home

/-- The home inside a bundle. -/
def inBundle (p : Path) : Path :=
  p.join "Contents/Home"

/-- The canonical home that a path stands for, if it stands for one. -/
def resolve? (t : FileTree) (p : Path) : Option Path :=
  if t.isFile (inBundle p).launcher then t.canonical? (inBundle p)
  else if t.isFile p.launcher then t.canonical? p
  else none

/-- A directory of the search path in full: a leading `~` stands for the personal directory. -/
def expand (env : Environment) (directory : Path) : Path :=
  match env.home?, directory.components with
  | some home, .name "~" :: rest =>
    rest.foldl (fun p step =>
      match step with
      | .name n => p.join n
      | .up => p.join ".."
      | _ => p) home
  | _, _ => directory

/-- The places where a program called `java` may be, in the order in which they are tried. -/
def programPaths (env : Environment) : List Path :=
  match env.searchPath? with
  | none => []
  | some list =>
    (Text.splitBy (· == ':') list.toList).map fun d =>
      (expand env ⟨String.ofList d⟩).join "java"

/-- The home two levels above the first program called `java` on the search path, links followed. -/
def detect? (t : FileTree) (env : Environment) : Option Path := do
  let path ← (programPaths env).find? t.isExecutable
  let place ← t.canonicalPlace? path
  if place.length < 2 then none
  else resolve? t (.ofNames place.dropLast.dropLast)

end JavaHomes.Home
