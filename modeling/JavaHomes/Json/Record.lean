import JavaHomes.Json.Reader

/-!
Records in JSON: an object with the fields as members, in any order, or a list of the fields' values
in the order of their declaration. Members that are no field are passed over.
-/

namespace JavaHomes.Json

/-- A field: its name, and how its value changes what has been read so far. -/
structure Field (α : Type) where
  name : String
  update : Reader (α → α)

/-- A field that is read by `value` and put in place by `put`. -/
def field (name : String) (value : Reader β) (put : β → α → α) : Field α :=
  ⟨name, do return put (← value)⟩

/-- The shape of a record. -/
structure Shape (α : Type) where
  fields : List (Field α)
  /-- What holds for the fields that are not given. -/
  initial : α
  /-- Whether all fields have to be given. -/
  complete : Bool

/-- The values of the fields in their order, up to the closing bracket. -/
def fromList (complete : Bool) (a : α) : (first : Bool) → List (Field α) → Reader α
  | _, [] => return a
  | first, f :: rest => do
    if ← another ']' first then
      let change ← f.update
      fromList complete (change a) false rest
    else if complete then throw .unsuitable
    else return a

/-- The members up to the closing brace; `seen` are the fields that have been given. No field may be
given twice. -/
def fromMembers (shape : Shape α) (a : α) (seen : List String) :
    (fuel : Nat) → (first : Bool) → Reader α
  | 0, _ => throw .malformed
  | fuel + 1, first => do
    if ← another '\x7d' first then
      let k ← key
      match shape.fields.find? fun f => f.name == k with
      | none =>
        mark ':'
        skipValue
        fromMembers shape a seen fuel false
      | some f =>
        if seen.contains k then throw .unsuitable
        mark ':'
        let change ← f.update
        fromMembers shape (change a) (k :: seen) fuel false
    else if shape.complete && seen.length != shape.fields.length then throw .unsuitable
    else return a

/-- A record. -/
def record (shape : Shape α) : Reader α := do
  let c ← peek
  if c == '[' then
    drop
    let a ← fromList shape.complete shape.initial true shape.fields
    mark ']'
    return a
  else if c == '\x7b' then
    drop
    let a ← fromMembers shape shape.initial [] ((← get).length + 1) true
    drop
    return a
  else refuse

end JavaHomes.Json
