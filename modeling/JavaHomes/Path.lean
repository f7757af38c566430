import JavaHomes.Text.Blank
import JavaHomes.Text.Utf8

/-!
File paths. A path keeps its text as it was given; order and sameness go by its components, so that
`/opt//jdk/` and `/opt/./jdk` are the same path.
-/

namespace JavaHomes

/-- A path as it was given. -/
structure Path where
  text : String
  deriving DecidableEq, Repr

namespace Path

/-- A step on the way that a path describes. -/
inductive Component where
  | root
  | here
  | up
  | name (name : String)
  deriving DecidableEq, Repr

namespace Component

/-- The rank of the kinds of steps among one another. -/
def rank : Component → Nat
  | .root => 0
  | .here => 1
  | .up => 2
  | .name _ => 3

/-- Kinds by their rank, names by their characters. -/
def compare : Component → Component → Ordering
  | .name a, .name b => Ord.compare a b
  | a, b => Ord.compare a.rank b.rank

end Component

/-- Whether the path starts at the root. -/
def isAbsolute (p : Path) : Bool :=
  p.text.toList.head? == some '/'

/-- The pieces between the slashes, empty ones included. -/
def pieces (p : Path) : List String :=
  (Text.splitBy (· == '/') p.text.toList).map String.ofList

/-- The step that a piece stands for; none for an empty piece and for a dot. -/
def component? (piece : String) : Option Component :=
  if piece = "" ∨ piece = "." then none
  else if piece = ".." then some .up
  else some (.name piece)

/-- The steps of a path. A dot counts only as the first piece of a relative path. -/
def components (p : Path) : List Component :=
  let steps := p.pieces.filterMap component?
  if p.isAbsolute then .root :: steps
  else if p.pieces.head? = some "." then .here :: steps
  else steps

/-- Lexicographic comparison of the components. -/
def compareComponents : List Component → List Component → Ordering
  | [], [] => .eq
  | [], _ :: _ => .lt
  | _ :: _, [] => .gt
  | a :: as, b :: bs => (a.compare b).then (compareComponents as bs)

/-- The order of paths. -/
def compare (p q : Path) : Ordering :=
  compareComponents p.components q.components

/-- Whether two paths have the same components. -/
def same (p q : Path) : Bool :=
  compare p q == .eq

/-- The path of `name` inside `p`. An absolute `name` stands for itself. -/
def join (p : Path) (name : String) : Path :=
  if name.toList.head? = some '/' ∨ p.text = "" then ⟨name⟩
  else if p.text.toList.getLast? = some '/' then ⟨p.text ++ name⟩
  else ⟨p.text ++ "/" ++ name⟩

/-- The absolute path that visits `names` in turn. -/
def ofNames (names : List String) : Path :=
  match names with
  | [] => ⟨"/"⟩
  | _ => ⟨String.join (names.map fun n => "/" ++ n)⟩

/-- The number of octets of the path's text. -/
def size (p : Path) : Nat :=
  p.text.utf8ByteSize

/-- The octets of the path's text. -/
def octets (p : Path) : List UInt8 :=
  Text.Utf8.encode p.text

end Path

end JavaHomes
