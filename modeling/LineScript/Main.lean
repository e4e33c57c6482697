/-
The program: reads the script file that the arguments name, runs it, and writes
the report to the standard streams.
-/
import LineScript.CommandLine.Command

namespace LineScript

namespace SourceFile

/-- What stands at a path. -/
def ofPath (path : String) : IO SourceFile := do
  try
    return .bytes (← IO.FS.readBinFile path)
  catch
    | .noFileOrDirectory .. => return .missing
    | _ => return .directory

end SourceFile

namespace Report

/-- Writes a report to the standard streams and hands out its exit code. -/
def deliver (report : Report) : IO UInt32 := do
  for line in report.log do
    IO.eprintln line
  let stdout ← IO.getStdout
  stdout.write ⟨report.stdout.bytes⟩
  stdout.flush
  IO.eprint report.stderr
  return UInt32.ofNat report.exitCode

end Report

end LineScript

open LineScript in
def main (arguments : List String) : IO UInt32 := do
  match Arguments.ofList arguments with
  | .error early => (Command.earlyReport early).deliver
  | .ok (path, a) =>
    let directives? ← IO.getEnv "RUST_LOG"
    (Command.run a (directives?.map String.toList) (← SourceFile.ofPath path)).deliver
