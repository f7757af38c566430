import JavaHomes.Text.Quoted
import JavaHomes.Version.Basic

/-!
Version constraints: the texts `17`, `17.0`, `17.0.2`, `17+` and `11..21`, and which versions each
of them admits.
-/

namespace JavaHomes

/-- A restriction on the version of an installation. -/
inductive Constraint where
  /-- Any version with this first number. -/
  | major (major : UInt32)
  /-- Any version with these first two numbers. -/
  | majorMinor (major minor : UInt32)
  /-- This version or a newer one. -/
  | atLeast (least : Version)
  /-- This version. -/
  | exact (version : Version)
  /-- From the first version on, up to the second one and without it. -/
  | between (least bound : Version)
  deriving DecidableEq, Repr

/-- Why a text is no constraint or no version. -/
inductive VersionFault where
  | empty
  | unreadable (text : String)
  deriving DecidableEq, Repr

/-- The wording of a fault. -/
def VersionFault.message : VersionFault → String
  | .empty => "empty version constraint"
  | .unreadable text => "invalid Java version: " ++ Text.Quoted.ofString text

/-- Reads a version, with the text itself as the fault. -/
def Version.read (s : String) : Except VersionFault Version :=
  match Version.parse? s with
  | some v => .ok v
  | none => .error (.unreadable s)

namespace Constraint

/-- Whether the constraint admits `v`. -/
def admits (c : Constraint) (v : Version) : Bool :=
  match c with
  | .major n => v.major == n
  | .majorMinor n m => v.major == n && v.minor == m
  | .atLeast least => decide (least ≤ v)
  | .exact version => v == version
  | .between least bound => decide (least ≤ v) && decide (v < bound)

/-- Whether the constraint admits any version at all: only an empty interval does not. -/
def isSatisfiable : Constraint → Bool
  | .between least bound => decide (least < bound)
  | _ => true

/-- The text of a constraint. -/
def chars : Constraint → List Char
  | .major n => Text.Decimal.write n.toNat
  | .majorMinor n m => Text.Decimal.write n.toNat ++ '.' :: Text.Decimal.write m.toNat
  | .atLeast least => least.chars ++ ['+']
  | .exact version => version.chars
  | .between least bound => least.chars ++ '.' :: '.' :: bound.chars

/-- The text of a constraint as a string. -/
def text (c : Constraint) : String :=
  String.ofList c.chars

/-- Reads one of the versions inside a constraint. -/
def version (s : List Char) : Except VersionFault Version :=
  match Version.ofChars? s with
  | some v => .ok v
  | none => .error (.unreadable (String.ofList s))

/-- Reads a row of numbers, whose length decides how much of a version has to agree. -/
def ofNumerals (s : List Char) : Except VersionFault Constraint :=
  match Version.numbers? s with
  | some [n] => .ok (.major n)
  | some [n, m] => .ok (.majorMinor n m)
  | some numbers => .ok (.exact (.ofNumbers numbers))
  | none => .error (.unreadable (String.ofList s))

/-- Reads a constraint from a text without surrounding white space. An interval is recognised by
its two dots, a lower bound by the plus sign at its end; of two unreadable bounds the lower one is
the fault. -/
def ofTrimmed (s : List Char) : Except VersionFault Constraint :=
  match Text.splitOnce ['.', '.'] s with
  | some (least, bound) => do
    let least ← version least
    let bound ← version bound
    return .between least bound
  | none =>
    if s.getLast? = some '+' then (version s.dropLast).map .atLeast else ofNumerals s

/-- Reads a constraint. -/
def ofChars (s : List Char) : Except VersionFault Constraint :=
  if (Text.trim s).isEmpty then .error .empty else ofTrimmed (Text.trim s)

/-- Reads the text of a constraint. -/
def parse (s : String) : Except VersionFault Constraint :=
  ofChars s.toList

end Constraint

end JavaHomes
