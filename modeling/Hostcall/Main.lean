import Hostcall.Console.Command

/-!
# The program

The command line tool on the standard streams and the file system.  What it
needs of them is read first: the file that a command line asks for, or the
input of a session up to its end.
-/

namespace Hostcall.Console

/-- The bytes of the file at a path, or what keeps them from being read. -/
def readFileBytes (path : String) : IO (Except FileError ByteArray) := do
  try
    return .ok (← IO.FS.readBinFile path)
  catch
    | .noFileOrDirectory .. => return .error .notFound
    | .inappropriateType _ code _ => return .error (ofCode code)
    | .invalidArgument _ code _ => return .error (ofCode code)
    | error => throw error
where
  /-- The error with a code of the operating system, which may come negated. -/
  ofCode (code : UInt32) : FileError :=
    if code = 20 ∨ code = 0 - 20 then .notDirectory
    else if code = 36 ∨ code = 0 - 36 then .nameTooLong
    else .isDirectory

/-- What remains of an input, behind what was read before. -/
partial def readRest (input : IO.FS.Stream) (before : String) : IO String := do
  let line ← input.getLine
  if line.isEmpty then return before else readRest input (before ++ line)

/-- Report how the tool ended, as the exit code of the process. -/
def exitCode : Ending → IO UInt32
  | .exit code => return code.toUInt32
  | .returned => return 0
  | .failed path error => do
      IO.eprintln (error.message path)
      return 1

theorem two_lt_machineLimit : 2 < Nat.pow 2 35 := by decide

/-- Runs of thirty-two gibibytes are taken to be too long for the machine. -/
def machineMemory : Text.Memory :=
  ⟨Nat.pow 2 35, two_lt_machineLimit⟩

/-- Do what a command line asks for. -/
def runTool (arguments : List String) : IO UInt32 := do
  let origin := originOf arguments
  let found ←
    match origin with
    | some (.file path) => readFileBytes path
    | _ => pure (.error .notFound)
  let input ←
    match origin with
    | some .session => readRest (← IO.getStdin) ""
    | _ => pure ""
  let (ending, shown, notes) := invoke machineMemory (fun _ => found) input arguments
  IO.print shown
  for note in notes do
    IO.eprintln note.line
  exitCode ending

end Hostcall.Console

/-- Run the command line tool. -/
def main (arguments : List String) : IO UInt32 :=
  Hostcall.Console.runTool arguments
