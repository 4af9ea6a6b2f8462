import Hostcall.Console.Transcript
import Hostcall.Token.Listing
import Hostcall.Tree.Outline

/-!
# Running a program from the command line

A source text is run against the demonstration host, or only its tokens or its
outline are shown.  Whatever goes wrong is reported, and the exit code tells
programs that cannot be read from those that the host stopped.
-/

namespace Hostcall.Console

/-- What is done with a source text. -/
inductive View where
  /-- It is run. -/
  | run
  /-- Its tokens are listed. -/
  | tokens
  /-- Its outline is shown, with an indent. -/
  | outline (indent : Indent)
deriving DecidableEq, Repr

/-- The view that two switches select; tokens come before the outline. -/
def View.ofSwitches (memory : Text.Memory) (tokens outline : Bool) : View :=
  if tokens then .tokens else if outline then .outline (.standard memory) else .run

/-- What went wrong with a program. -/
inductive Trouble where
  /-- The text is not a program. -/
  | source (error : SourceError)
  /-- The program has no outline. -/
  | outline (failure : OutlineError)
  /-- The host raised. -/
  | host (failure : Demo.UnwantedArguments)
deriving DecidableEq, Repr

/-- What is wrong, in words. -/
def Trouble.message : Trouble → String
  | .source error => error.message
  | .outline failure => failure.message
  | .host failure => failure.message

/-- The demonstration host that shows what it puts out. -/
def demoHost : Host Transcript Demo.UnwantedArguments Demo.Object :=
  Demo.host Transcript.putOut

/-! ## Stages -/

/-- Scan a source text. -/
def scanText (source : String) : EStateM Trouble Transcript (List Token) := fun transcript =>
  match Token.tokenize source with
  | .error failure => .error (.source (.unterminatedString failure)) transcript
  | .ok tokens => .ok tokens (transcript.note (.scanned tokens.length source.length))

/-- Read tokens into statements. -/
def readTokens (tokens : List Token) : EStateM Trouble Transcript (List Node) := fun transcript =>
  match Node.parse tokens with
  | .error failure => .error (.source (.unterminatedCall failure)) transcript
  | .ok body => .ok body (transcript.note (.parsed body.length tokens.length))

/-- List tokens. -/
def showTokens (tokens : List Token) : EStateM Trouble Transcript Unit := fun transcript =>
  .ok () (transcript.writeLine (Token.listing tokens))

/-- Show the outline of statements. -/
def showOutline (indent : Indent) (body : List Node) : EStateM Trouble Transcript Unit :=
  fun transcript =>
    match (Node.program body).outline indent 0 with
    | .error failure => .error (.outline failure) transcript
    | .ok outline => .ok () (transcript.writeLine outline)

/-- Evaluate statements in the demonstration scope. -/
def runBody (body : List Node) : EStateM Trouble Transcript Unit := fun transcript =>
  match demoHost.access.execute body Demo.scope transcript with
  | .error failure after => .error (.host failure) after
  | .ok _ after => .ok () (after.note (.evaluated body.length))

/-! ## One program -/

/-- Show the outline of statements if the view asks for it, and otherwise run them. -/
def takeBody : View → List Node → EStateM Trouble Transcript Unit
  | .outline indent, body => showOutline indent body
  | .run, body => runBody body
  | .tokens, body => runBody body

/-- List tokens if the view asks for it, and otherwise go on with the statements. -/
def takeTokens (view : View) (tokens : List Token) : EStateM Trouble Transcript Unit := do
  if view = .tokens then
    showTokens tokens
  else
    let body ← readTokens tokens
    takeBody view body

/-- Take a source text through its stages, as far as the view needs them. -/
def process (view : View) (source : String) : EStateM Trouble Transcript Unit := do
  let tokens ← scanText source
  takeTokens view tokens

/-- Process one source text and report what went wrong; with the exit code. -/
def runSource (view : View) (source : String) (transcript : Transcript) : Nat × Transcript :=
  match process view source transcript with
  | .ok _ after => (0, after)
  | .error (.source error) after => (1, after.writeLine ("[callchain] " ++ error.message))
  | .error trouble after =>
      (2, after.writeLine ("\n[callchain] Host function error: " ++ trouble.message))

end Hostcall.Console
