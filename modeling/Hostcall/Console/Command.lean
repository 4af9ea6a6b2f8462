import Hostcall.Console.Files
import Hostcall.Console.Options
import Hostcall.Console.Session

/-!
# The command line tool

A command line asks for a session, for a given text, or for a file.  Everything
that the tool does with it is a function of the command line, of what the file
at a path holds, and of the input.
-/

namespace Hostcall.Console

/-- What is shown as the version. -/
def versionLine : String :=
  "callchain 0.1.0"

/-- What is shown as help, in lines of eighty characters. -/
def helpText : String :=
  "usage: callchain [-h] [-e SOURCE] [--tokens] [--ast] [--repl] [-v] [--version]\n" ++
  "                 [file]\n\n" ++
  "CallChain interpreter: run DSL source against the demo host scope\n\n" ++
  "positional arguments:\n" ++
  "  file                  Source file to execute\n\n" ++
  "options:\n" ++
  "  -h, --help            show this help message and exit\n" ++
  "  -e SOURCE, --eval SOURCE\n" ++
  "                        Execute SOURCE instead of a file\n" ++
  "  --tokens              Print tokens instead of running\n" ++
  "  --ast                 Print the AST instead of running\n" ++
  "  --repl                Force REPL mode\n" ++
  "  -v, --verbose         Log pipeline stages to stderr\n" ++
  "  --version             show program's version number and exit\n"

/-- Where the programs to be processed come from. -/
inductive Origin where
  /-- From the lines of the input. -/
  | session
  /-- From the command line itself. -/
  | text (source : String)
  /-- From the file at a path. -/
  | file (path : String)
deriving DecidableEq, Repr

/-- The view that options ask for. -/
def Options.view (memory : Text.Memory) (options : Options) : View :=
  View.ofSwitches memory options.tokens options.outline

/-- The origin that options ask for: a text comes before a file, a session before both. -/
def Options.origin (options : Options) : Origin :=
  if options.repl then .session
  else
    match options.source, options.file with
    | some source, _ => .text source
    | none, some path => .file path
    | none, none => .session

/-- The origin that a command line asks for, if it asks for any. -/
def originOf (arguments : List String) : Option Origin :=
  match commandLine arguments with
  | .options options => some options.origin
  | _ => none

/-- How the tool ends. -/
inductive Ending where
  /-- With an exit code. -/
  | exit (code : Nat)
  /-- By itself, at the end of a session. -/
  | returned
  /-- With the error of the file at a path. -/
  | failed (path : String) (error : FileError)
deriving DecidableEq, Repr

/-- Process the file at a path, given its bytes or what keeps them from being read. -/
def runFile (view : View) (path : String) (found : Except FileError ByteArray) :
    Ending × Transcript :=
  match found with
  | .error .notFound =>
      (.exit 1, Transcript.empty.writeLine ("[callchain] File not found: " ++ path))
  | .error error => (.failed path error, .empty)
  | .ok bytes =>
      match textOfBytes bytes with
      | .error error => (.failed path error, .empty)
      | .ok source =>
          let (code, transcript) := runSource view source .empty
          (.exit code, transcript)

/-- Do what options ask for. -/
def perform
    (memory : Text.Memory)
    (read : String → Except FileError ByteArray)
    (input : String)
    (options : Options) :
    Ending × Transcript :=
  match options.origin with
  | .session => (.returned, session (options.view memory) input)
  | .text source =>
      let (code, transcript) := runSource (options.view memory) source .empty
      (.exit code, transcript)
  | .file path => runFile (options.view memory) path (read path)

/-- The notes of a transcript that are reported. -/
def Options.reported (options : Options) (transcript : Transcript) : List Note :=
  if options.verbose then transcript.notes else []

/-- Everything that the tool does: how it ends, what it shows, and what it reports. -/
def invoke
    (memory : Text.Memory)
    (read : String → Except FileError ByteArray)
    (input : String)
    (arguments : List String) :
    Ending × String × List Note :=
  match commandLine arguments with
  | .refused => (.exit 2, "", [])
  | .help => (.exit 0, helpText, [])
  | .version => (.exit 0, versionLine ++ "\n", [])
  | .options options =>
      let (ending, transcript) := perform memory read input options
      (ending, transcript.shown, options.reported transcript)

end Hostcall.Console
