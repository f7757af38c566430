import JavaHomes.Environment
import JavaHomes.FileTree.Edit
import JavaHomes.Json.Record
import JavaHomes.Text.Utf8

/-!
The picture of a machine: its environment and its file system, with the behaviour of the programs on
it. A picture is read from JSON, entry by entry, and parents are made as needed.
-/

namespace JavaHomes

/-- A machine at one moment. -/
structure Machine where
  environment : Environment
  tree : FileTree

namespace Machine

/-- One entry of a picture: a link if it has a target, a file if it has content, and otherwise a
directory. A file with an output is a program that writes it. Files are not searched. -/
structure Item where
  path : Path := ⟨"/"⟩
  target : Option Path := none
  content : Option String := none
  readable : Bool := true
  searchable : Bool := true
  executable : Bool := false
  stdout : Option String := none
  stderr : Option String := none
  millis : Nat := 0

/-- The behaviour of the program that an item describes. -/
def Item.program (i : Item) : Program := fun _ =>
  match i.stdout, i.stderr with
  | none, none => .refused
  | stdout, stderr =>
    .output (Text.Utf8.encode (stdout.getD "")) (Text.Utf8.encode (stderr.getD "")) i.millis

/-- Puts the entry of an item in place. -/
def Item.put (t : FileTree) (i : Item) : FileTree :=
  match i.target, i.content with
  | some target, _ => t.makeLink i.path target
  | none, some content =>
    t.write i.path
      { content := Text.Utf8.encode content, readable := i.readable, executable := i.executable,
        program := i.program }
  | none, none =>
    let (t, place) := t.makeDirectory i.path
    t.put place (.directory i.readable i.searchable)

/-- Reads a path. -/
def readPath : Json.Reader Path := do
  return ⟨← Json.text⟩

/-- The shape of an item. -/
def Item.shape : Json.Shape Item where
  fields :=
    [Json.field "path" readPath fun a i => { i with path := a },
      Json.field "target" (Json.orNull readPath) fun a i => { i with target := a },
      Json.field "content" (Json.orNull Json.text) fun a i => { i with content := a },
      Json.field "readable" Json.boolean fun a i => { i with readable := a },
      Json.field "searchable" Json.boolean fun a i => { i with searchable := a },
      Json.field "executable" Json.boolean fun a i => { i with executable := a },
      Json.field "stdout" (Json.orNull Json.text) fun a i => { i with stdout := a },
      Json.field "stderr" (Json.orNull Json.text) fun a i => { i with stderr := a },
      Json.field "millis" Json.natural64 fun a i => { i with millis := a }]
  initial := {}
  complete := false

/-- What a picture holds. -/
structure Picture where
  assignments : List (String × String) := []
  accountHome : Option Path := none
  workingDirectory : Path := ⟨"/"⟩
  items : List Item := []

/-- The shape of a picture. -/
def Picture.shape : Json.Shape Picture where
  fields :=
    [Json.field "variables" (Json.membersOf Json.text) fun a p => { p with assignments := a },
      Json.field "accountHome" (Json.orNull readPath) fun a p => { p with accountHome := a },
      Json.field "workingDirectory" readPath fun a p => { p with workingDirectory := a },
      Json.field "items" (Json.listOf (Json.record Item.shape)) fun a p => { p with items := a }]
  initial := {}
  complete := false

/-- The machine that a picture shows. -/
def ofPicture (p : Picture) : Machine where
  environment := { assignments := p.assignments, accountHome := p.accountHome }
  tree := p.items.foldl Item.put ⟨[], p.workingDirectory⟩

/-- Reads the text of a picture. -/
def parse (s : String) : Except Json.Fault Machine :=
  (Json.read (Json.record Picture.shape) s).map ofPicture

end Machine

end JavaHomes
