import Multiscan.Cli.Run
/-!
# The command line program

Reads the files that the command line names, carries it out and prints what
it has to say. The times in the table are those since the start of the
program.
-/

namespace Multiscan.Main

open Cli

/-- What a path leads to on this machine. -/
def look (path : Text.Bytes) : IO Found := do
  match String.fromUTF8? (ByteArray.mk path) with
  | none => return .missing
  | some name =>
    try
      let contents ← IO.FS.readBinFile name
      return .file contents.data
    catch
      | .noFileOrDirectory .. => return .missing
      | .inappropriateType .. => return .directory
      | .illegalOperation .. => return .directory
      | _ => return .notDirectory

/-- What each of several paths leads to. -/
def lookAll (paths : List Text.Bytes) : IO Files := do
  let found ← paths.mapM fun p => return (p, ← look p)
  return fun path => (found.lookup path).getD .missing

/-- A number of nanoseconds in milliseconds. -/
def printedTime (nanoseconds : Nat) : String :=
  Nat.repr (nanoseconds / 1000000) ++ "ms"

end Multiscan.Main

open Multiscan in
/-- The program. -/
def main (arguments : List String) : IO UInt32 := do
  let begun ← IO.monoNanosNow
  let arguments := arguments.map Text.bytesOf
  let report := Cli.run (← Main.lookAll (Cli.paths arguments)) arguments
  for line in report.lines do
    IO.println line
  let elapsed := Main.printedTime ((← IO.monoNanosNow) - begun)
  for line in Cli.tableLines (fun _ => elapsed) report.rows do
    IO.println line
  match report.failure with
  | none => return 0
  | some message =>
    IO.eprintln message
    return 1
