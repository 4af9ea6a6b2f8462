import Hostcall.Console.Program
import Hostcall.Text.Blank
import Hostcall.Text.Lines

/-!
# Interactive sessions

A session prompts for lines and processes each as a program of its own, all of
them against one demonstration host.  Blank lines are passed over.  The session
ends with the input or with a line that says so.
-/

namespace Hostcall.Console

/-- Whether a session goes on after a line. -/
inductive Continuing where
  | goesOn
  | ends
deriving DecidableEq, Repr

/-- What is shown first. -/
def banner : String :=
  "callchain REPL 0.1.0\nType 'quit' to exit.\n\n"

/-- What is shown before every line is read. -/
def prompt : String :=
  "> "

/-- What is shown last. -/
def farewell : String :=
  "[callchain] Goodbye."

/-- Run a source text on the demonstration host of the session. -/
def runText (source : String) : EStateM Trouble Transcript Unit := do
  let tokens ← scanText source
  let body ← readTokens tokens
  runBody body

/-- Show of a text what the view asks for, or run it. -/
def takeText : View → String → EStateM Trouble Transcript Unit
  | .tokens, source => do
      let tokens ← scanText source
      showTokens tokens
  | .outline indent, source => do
      let tokens ← scanText source
      let body ← readTokens tokens
      showOutline indent body
  | .run, source => runText source

/-- Take the text of a line and report what went wrong. -/
def processLine (view : View) (line : String) (transcript : Transcript) : Transcript :=
  match takeText view line transcript with
  | .ok _ after => after
  | .error (.source error) after => after.writeLine ("[Error] " ++ error.message)
  | .error trouble after => after.writeLine ("[Host Error] " ++ trouble.message)

/-- Answer one line. -/
def answerLine (view : View) (line : String) (transcript : Transcript) :
    Continuing × Transcript :=
  let text := Text.stripped line
  if text = "" then
    (.goesOn, transcript)
  else if text = "quit" ∨ text = "exit" then
    (.ends, transcript.writeLine farewell)
  else
    (.goesOn, processLine view text transcript)

/-- Prompt for lines and answer them until the session ends. -/
def answerLines (view : View) : List String → Transcript → Transcript
  | [], transcript => (transcript.write prompt).writeLine ("\n" ++ farewell)
  | line :: others, transcript =>
      match answerLine view line (transcript.write prompt) with
      | (.ends, after) => after
      | (.goesOn, after) => answerLines view others after

/-- A whole session on an input text. -/
def session (view : View) (input : String) : Transcript :=
  answerLines view ((Text.lines input.toList).map String.ofList) (Transcript.empty.write banner)

end Hostcall.Console
