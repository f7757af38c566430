import JavaHomes.CommandLine.Run
import JavaHomes.Machine

/-!
The command line program. Standard input holds the picture of the machine to search, and the answer
is what the command line does on that machine.
-/

namespace JavaHomes

/-- Reads the lines of a stream to its end. -/
partial def readAll (input : IO.FS.Stream) (before : String) : IO String := do
  let line ← input.getLine
  if line.isEmpty then return before else readAll input (before ++ line)

/-- Prints a result and gives its exit code. -/
def report (result : CommandLine.Result) : IO UInt32 := do
  IO.print result.stdout
  IO.eprint result.stderr
  return result.code.toUInt32

end JavaHomes

/-- Reads the picture of the machine and runs the command line on it. The time that is reported is
the time since the program was started. -/
def main (words : List String) : IO UInt32 := do
  let start ← IO.monoNanosNow
  let picture ← JavaHomes.readAll (← IO.getStdin) ""
  let elapsed : JavaHomes.Duration := ⟨(← IO.monoNanosNow) - start⟩
  match JavaHomes.Machine.parse picture with
  | .ok machine =>
    JavaHomes.report
      (JavaHomes.CommandLine.run machine.tree machine.environment elapsed.text words)
  | .error fault => JavaHomes.report (.failure fault.message)
