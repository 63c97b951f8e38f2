import Chip8.CommandLine

/-!
# Program

Runs a window from the command line over the script on standard input, and prints the log and the
calls that the window made.
-/

namespace Chip8

/-- The number by which the operating system knows an error of a file. -/
def fileErrorNumber : IO.Error → Nat
  | .noFileOrDirectory _ number _ => number.toInt32.toInt.natAbs
  | .inappropriateType _ number _ => number.toInt32.toInt.natAbs
  | .invalidArgument _ number _ => number.toInt32.toInt.natAbs
  | _ => 0

/-- Reads a file. -/
def readFile (name : String) : IO (Except FileError (List UInt8)) := do
  match ← (IO.FS.readBinFile name).toBaseIO with
  | .ok data => return .ok data.toList
  | .error error =>
    match FileError.ofNumber? (fileErrorNumber error) with
    | some cause => return .error cause
    | none => throw error

/-- The lines of a stream up to its end. -/
partial def readLines (stream : IO.FS.Stream) (before : Array String) : IO (Array String) := do
  let line ← stream.getLine
  if line.isEmpty then return before
  else readLines stream (before.push (line.dropEndWhile (· == '\n')).copy)

end Chip8

open Chip8 in
def main (arguments : List String) : IO UInt32 := do
  match Window.Settings.ofArguments arguments with
  | none =>
    IO.eprintln Window.Settings.usage
    return 2
  | some settings =>
    let program ← readFile settings.program
    let lines ← readLines (← IO.getStdin) #[]
    let script := lines.toList.map Window.Moment.ofLine
    match Window.run settings ⟨0.0, fun _ => program⟩ script with
    | .error failure =>
      IO.eprintln (failure.message?.getD "a number is out of range")
      return 1
    | .ok report =>
      IO.print report.written
      for call in report.calls do
        IO.println call.line
      match report.result with
      | .ok code => return code.toUInt32
      | .error failure =>
        IO.eprintln (failure.message?.getD "a number is out of range")
        return 1
