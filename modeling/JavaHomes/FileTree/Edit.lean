import JavaHomes.FileTree.Basic

/-!
Changes to a file system: directories are made as needed, files and links are put in place, and
things are removed together with everything inside them. Changes are made by others than the user,
so nothing is denied to them.
-/

namespace JavaHomes

/-- What a place holds, to someone who may search every directory. -/
def Entry.unlocked : Entry → Entry
  | .directory readable _ => .directory readable
  | entry => entry

namespace FileTree

/-- A file system to someone who may search every directory. -/
def unlocked (t : FileTree) : FileTree :=
  { t with entries := t.entries.map fun e => (e.1, e.2.unlocked) }

/-- The pieces to go through from the root to where a path leads. -/
def fromRoot (t : FileTree) (p : Path) : List String :=
  t.start p ++ p.pieces

/-- Puts an entry at a place, over the one that stood there. -/
def put (t : FileTree) (place : Location) (entry : Entry) : FileTree :=
  { t with entries := (t.entries.filter fun e => e.1 != place) ++ [(place, entry)] }

/-- Goes one piece further, through links, and makes the directory that is missing there. -/
def enter (here : FileTree × Location) (piece : String) : FileTree × Location :=
  let (t, place) := here
  if piece = "" ∨ piece = "." then (t, place)
  else if piece = ".." then (t, place.dropLast)
  else
    let next := place ++ [piece]
    match t.entry? next with
    | none => (t.put next .directory, next)
    | some (.link _) =>
      match t.unlocked.walk linkLimit place [piece] with
      | .ok target => (t, target)
      | .error _ => (t, next)
    | some _ => (t, next)

/-- Makes a directory with all its parents, and says at which place it is. -/
def makeDirectory (t : FileTree) (p : Path) : FileTree × Location :=
  (t.fromRoot p).foldl enter (t, [])

/-- The parent of a path and the last name in it. -/
def splitLast (t : FileTree) (p : Path) : List String × String :=
  let pieces := (t.fromRoot p).filter (· != "")
  (pieces.dropLast, pieces.getLast?.getD "")

/-- Puts a file in place and follows at most `links` links that stand there. -/
def writeThrough (t : FileTree) (p : Path) (file : File) (links : Nat) : FileTree :=
  let (parents, name) := t.splitLast p
  let (t, place) := parents.foldl enter (t, [])
  match t.entry? (place ++ [name]), links with
  | some (.link target), links + 1 =>
    if target.isAbsolute then t.writeThrough target file links
    else t.writeThrough ((Path.ofNames place).join target.text) file links
  | _, _ => t.put (place ++ [name]) (.file file)

/-- Puts a file in place. A link that stands there is followed. -/
def write (t : FileTree) (p : Path) (file : File) : FileTree :=
  t.writeThrough p file linkLimit

/-- Puts a link in place. -/
def makeLink (t : FileTree) (p target : Path) : FileTree :=
  let (parents, name) := t.splitLast p
  let (t, place) := parents.foldl enter (t, [])
  t.put (place ++ [name]) (.link target)

/-- Removes a file, a link, or a directory with everything inside it. -/
def remove (t : FileTree) (p : Path) : FileTree :=
  let (parents, name) := t.splitLast p
  match t.unlocked.walk linkLimit [] parents with
  | .ok place =>
    { t with entries := t.entries.filter fun e => !(place ++ [name]).isPrefixOf e.1 }
  | .error _ => t

end FileTree

end JavaHomes
