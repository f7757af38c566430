import JavaHomes.Path

/-!
A file system at one moment, as one user sees it: which places hold a directory, a file or a link,
what the user may do with them, and how each program behaves when it is started. Paths are resolved
as the operating system does, step by step through links, from the root or from the working
directory. Only the limit on the length of a whole path has no part in this: it binds a single call
of the system and says nothing about what is there, so all paths are taken to be short enough.
-/

namespace JavaHomes

/-- A place: the names on the way from the root, free of links and of dots. -/
abbrev Location := List String

/-- What happens when a program is started with some arguments. -/
inductive Response where
  /-- It cannot be started at all. -/
  | refused
  /-- It writes these octets to its two streams and exits after so many milliseconds. -/
  | output (stdout stderr : List UInt8) (millis : Nat)
  deriving DecidableEq, Repr

/-- The behaviour of a program, a function of its arguments. -/
abbrev Program := List String → Response

/-- A regular file. It counts as executable if anyone may execute it; whether the user may is up to
the program, which can refuse to start. -/
structure File where
  content : List UInt8
  readable : Bool := true
  executable : Bool
  program : Program := fun _ => .refused

/-- What a place can hold. The names in a directory can be listed if it is readable, and looked up
if it is searchable. -/
inductive Entry where
  | directory (readable searchable : Bool := true)
  | file (file : File)
  | link (target : Path)

/-- A file system, with the canonical path of the directory that relative paths start from. -/
structure FileTree where
  entries : List (Location × Entry)
  workingDirectory : Path

namespace FileTree

/-- Why a path leads nowhere or cannot be read. -/
inductive Fault where
  | missing
  | denied
  | notDirectory
  | isDirectory
  | tooManyLinks
  | nameTooLong
  | zeroCharacter
  | notUtf8
  deriving DecidableEq, Repr

/-- The wording of a fault, as the operating system has it. -/
def Fault.message : Fault → String
  | .missing => "No such file or directory (os error 2)"
  | .denied => "Permission denied (os error 13)"
  | .notDirectory => "Not a directory (os error 20)"
  | .isDirectory => "Is a directory (os error 21)"
  | .nameTooLong => "File name too long (os error 36)"
  | .tooManyLinks => "Too many levels of symbolic links (os error 40)"
  | .zeroCharacter => "file name contained an unexpected NUL byte"
  | .notUtf8 => "stream did not contain valid UTF-8"

/-- What is listed for a place. -/
def listed? (t : FileTree) (place : Location) : Option Entry :=
  (t.entries.find? fun e => e.1 == place).map Prod.snd

/-- What stands at a place. The root is always a directory. -/
def entry? (t : FileTree) (place : Location) : Option Entry :=
  match place, t.listed? place with
  | [], some (.directory readable searchable) => some (.directory readable searchable)
  | [], _ => some .directory
  | _, entry => entry

/-- Whether a place holds a directory. -/
def isDirectoryAt (t : FileTree) (place : Location) : Bool :=
  match t.entry? place with
  | some (.directory ..) => true
  | _ => false

/-- Whether a place holds a directory that can be listed. -/
def isReadableAt (t : FileTree) (place : Location) : Bool :=
  match t.entry? place with
  | some (.directory readable _) => readable
  | _ => false

/-- Whether a place holds a directory that can be searched for a name. -/
def isSearchableAt (t : FileTree) (place : Location) : Bool :=
  match t.entry? place with
  | some (.directory _ searchable) => searchable
  | _ => false

/-- The number of links that one path may pass. -/
def linkLimit : Nat := 40

/-- The number of octets that one name may have. -/
def nameLimit : Nat := 255

/-- What keeps a piece of a path from being taken at a place. Every piece has to start from a
directory, and all but an empty one from a directory that can be searched. -/
def hindrance? (t : FileTree) (place : Location) (piece : String) : Option Fault :=
  if !t.isDirectoryAt place then some .notDirectory
  else if piece = "" ∨ t.isSearchableAt place then none
  else some .denied

/-- Walks the pieces of a path from a place, up to the first link. What follows a link is told the
place from where it leads on, which is the directory that holds it or the root, and the pieces that
are still to be walked from there. -/
def walkPieces (t : FileTree) (follow : Location → List String → Except Fault Location)
    (place : Location) (pieces : List String) : Except Fault Location :=
  match pieces with
  | [] => .ok place
  | piece :: rest =>
    match t.hindrance? place piece with
    | some fault => .error fault
    | none =>
      if piece = "" ∨ piece = "." then t.walkPieces follow place rest
      else if piece = ".." then t.walkPieces follow place.dropLast rest
      else if nameLimit < piece.utf8ByteSize then .error .nameTooLong
      else if '\x00' ∈ piece.toList then .error .zeroCharacter
      else
        match t.entry? (place ++ [piece]) with
        | none => .error .missing
        | some (.link target) =>
          follow (if target.isAbsolute then [] else place) (target.pieces ++ rest)
        | some _ => t.walkPieces follow (place ++ [piece]) rest

/-- Walks the pieces of a path from a place, with `links` links left to pass. -/
def walk (t : FileTree) (links : Nat) : Location → List String → Except Fault Location :=
  match links with
  | 0 => t.walkPieces fun _ _ => .error .tooManyLinks
  | links + 1 => t.walkPieces (t.walk links)

theorem walk_zero (t : FileTree) :
    t.walk 0 = t.walkPieces fun _ _ => .error .tooManyLinks :=
  rfl

theorem walk_succ (t : FileTree) (links : Nat) :
    t.walk (links + 1) = t.walkPieces (t.walk links) :=
  rfl

-- a walk is only ever opened by these two equations, never by comparing what two paths lead to
attribute [irreducible] walk

/-- The place of the working directory. -/
def here (t : FileTree) : Location :=
  t.workingDirectory.pieces.filter (· ≠ "")

/-- The place that a path starts from: the root, or else the working directory itself, whether or
not anything leads there. -/
def start (t : FileTree) (p : Path) : Location :=
  if p.isAbsolute then [] else t.here

/-- The place that a path leads to. -/
def locate (t : FileTree) (p : Path) : Except Fault Location :=
  if '\x00' ∈ p.text.toList then .error .zeroCharacter
  else if p.text = "" then .error .missing
  else t.walk linkLimit (t.start p) p.pieces

/-- Whether the names of a place lead there from the root. -/
def reaches (t : FileTree) (place : Location) : Bool :=
  match t.walk linkLimit [] place with
  | .ok last => last == place
  | .error _ => false

/-- The place that is named by the canonical path of a path. The canonical path starts at the root,
so the place that the path starts from has to be reached from there. This is asked of a path of dots
alone as well, for which some systems do not look. -/
def canonicalPlace? (t : FileTree) (p : Path) : Option Location :=
  match t.locate p with
  | .ok place => if t.reaches (t.start p) then some place else none
  | .error _ => none

/-- The canonical path of a path: absolute, without links and dots. -/
def canonical? (t : FileTree) (p : Path) : Option Path :=
  (t.canonicalPlace? p).map .ofNames

/-- The file that a path leads to. -/
def file? (t : FileTree) (p : Path) : Option File :=
  match t.locate p with
  | .ok place =>
    match t.entry? place with
    | some (.file f) => some f
    | _ => none
  | .error _ => none

/-- Whether a path leads to a regular file. -/
def isFile (t : FileTree) (p : Path) : Bool :=
  (t.file? p).isSome

/-- Whether a path leads to a regular file that may be executed. -/
def isExecutable (t : FileTree) (p : Path) : Bool :=
  (t.file? p).any File.executable

/-- Whether a path leads to a directory. -/
def isDirectory (t : FileTree) (p : Path) : Bool :=
  match t.locate p with
  | .ok place => t.isDirectoryAt place
  | .error _ => false

/-- The name of an entry directly inside a place. -/
def childName? (place : Location) (entry : Location × Entry) : Option String :=
  match place.isPrefixOf? entry.1 with
  | some [name] => some name
  | _ => none

/-- The names in the directory that a path leads to; none for a path that leads to no directory, or
to one that cannot be listed. -/
def names? (t : FileTree) (p : Path) : Option (List String) :=
  match t.locate p with
  | .ok place =>
    if t.isReadableAt place then some (t.entries.filterMap (childName? place)) else none
  | .error _ => none

/-- The content of the file that a path leads to. -/
def read (t : FileTree) (p : Path) : Except Fault (List UInt8) := do
  let place ← t.locate p
  match t.entry? place with
  | some (.file f) => if f.readable then return f.content else throw .denied
  | _ => throw (if t.isReadableAt place then .isDirectory else .denied)

end FileTree

end JavaHomes
