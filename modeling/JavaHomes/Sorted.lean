/-!
Ascending lists without repetition, used as small maps: an element that compares equal to one in the
list is merged into it.
-/

namespace JavaHomes.Sorted

/-- Puts `x` in its place in an ascending list. If an element there compares equal, the two are
merged, the older one first. -/
def insert (cmp : α → α → Ordering) (merge : α → α → α) (x : α) : List α → List α
  | [] => [x]
  | y :: ys =>
    match cmp x y with
    | .lt => x :: y :: ys
    | .eq => merge y x :: ys
    | .gt => y :: insert cmp merge x ys

/-- The ascending list of the elements of `xs`, merged in their order. -/
def ofList (cmp : α → α → Ordering) (merge : α → α → α) (xs : List α) : List α :=
  xs.foldl (fun sorted x => insert cmp merge x sorted) []

/-- An ascending list of keys with values; a key that is given again takes the new value. -/
def insertKey [Ord κ] (key : κ) (value : β) (map : List (κ × β)) : List (κ × β) :=
  insert (fun a b => compare a.1 b.1) (fun _ new => new) (key, value) map

/-- The value of a key. -/
def get? [DecidableEq κ] (key : κ) (map : List (κ × β)) : Option β :=
  (map.find? fun e => e.1 == key).map Prod.snd

end JavaHomes.Sorted
