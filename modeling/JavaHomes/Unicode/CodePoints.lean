import JavaHomes.Text.Blank

/-!
Functions on code points that are constant on long runs, such as the general category or the
membership in a property. They are kept as the ascending list of the places where the value changes
and are read from a compact text.
-/

namespace JavaHomes.Unicode

/-- A function on code points, given by the places where its value changes, in ascending order. -/
structure Runs (α : Type) where
  starts : Array (Nat × α)

namespace Runs

/-- The number of runs in `[lo, hi)` up to the one that holds `c`, found by halving. -/
def search (starts : Array (Nat × α)) (c lo hi : Nat) : Nat :=
  if lo < hi then
    let mid := (lo + hi) / 2
    match starts[mid]? with
    | some (first, _) =>
      if first ≤ c then search starts c (mid + 1) hi else search starts c lo mid
    | none => lo
  else lo
termination_by hi - lo

/-- The value at `c`: that of the last run that starts at or before `c`. -/
def value? (r : Runs α) (c : Nat) : Option α :=
  match search r.starts c 0 r.starts.size with
  | 0 => none
  | n + 1 => r.starts[n]?.map Prod.snd

end Runs

/-- The number that a hexadecimal digit in upper case stands for. -/
def hexDigit (c : Char) : Nat :=
  if c.isDigit then c.toNat - 48 else c.toNat - 55

/-- The number written in hexadecimal. -/
def hexNumber (s : List Char) : Nat :=
  s.foldl (fun n c => 16 * n + hexDigit c) 0

/-- The words of a text: the pieces between its spaces and line feeds. -/
def words (s : String) : List (List Char) :=
  (Text.splitBy (fun c => c == ' ' || c == '\n') s.toList).filter fun w => !w.isEmpty

/-- A set of code points. -/
abbrev CodePoints := Runs Bool

namespace CodePoints

/-- The set of the ranges `first-last` and single code points that `s` lists in hexadecimal. -/
def ofText (s : String) : CodePoints :=
  let edges := (words s).flatMap fun w =>
    let first := hexNumber (w.takeWhile (· != '-'))
    let last :=
      match w.dropWhile (· != '-') with
      | _ :: digits => hexNumber digits
      | [] => first
    [(first, true), (last + 1, false)]
  ⟨edges.toArray⟩

/-- Membership. -/
def contains (s : CodePoints) (c : Nat) : Bool :=
  (s.value? c).getD false

end CodePoints

end JavaHomes.Unicode
