import JavaHomes.FileTree.Basic
import JavaHomes.Launcher.Report
import JavaHomes.Requirement
import JavaHomes.Text.Utf8

/-!
Probing: a candidate's launcher is started and has to say within a limit of time what it belongs to.
-/

namespace JavaHomes

/-- What a probe of a candidate can come to. A probe may also break off without any answer. -/
inductive Outcome where
  | found (installation : Installation)
  | failed (failure : ProbeFailure)
  | crashed
  deriving DecidableEq, Repr

/-- A way to probe candidates on a file system. The outcome may change from one call to the next,
so the number of the calls before is part of the question. -/
abbrev Prober := (calls : Nat) → FileTree → Candidate → Outcome

namespace Launcher

/-- The arguments that make a launcher tell its properties and its version. -/
def arguments : List String :=
  ["-XshowSettings:properties", "-version"]

/-- The text of the two streams, the standard output first. -/
def combined (stdout stderr : List UInt8) : List Char :=
  Text.Utf8.decodeLossy stdout ++ Text.Utf8.decodeLossy stderr

/-- What a launcher's response says about the candidate. A launcher that takes longer than the limit
is stopped. -/
def judge (limit : Duration) (vendors : VendorTable) (c : Candidate) : Response → Outcome
  | .refused => .failed (.notExecutable c.launcher)
  | .output stdout stderr millis =>
    if limit.nanos < (Duration.ofMillis millis).nanos then .failed (.timeout c.launcher limit)
    else
      match Report.ofOutput? vendors (combined stdout stderr) with
      | none => .failed (.unparsableOutput c.launcher)
      | some r => .found ⟨c.home, r.vendor, r.version, r.bitness, c.isCurrent⟩

/-- Starts the launcher of a candidate. Calls before make no difference. -/
def probe (limit : Duration) (vendors : VendorTable) : Prober := fun _ t c =>
  match t.file? c.launcher with
  | none => .failed (.notExecutable c.launcher)
  | some file =>
    if file.executable then judge limit vendors c (file.program arguments)
    else .failed (.notExecutable c.launcher)

end Launcher

end JavaHomes
