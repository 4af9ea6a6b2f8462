import Hostcall.Demo

/-!
# Transcripts

What a run of the command line tool leaves behind: the text that it showed,
and notes on the stages that programs passed.
-/

namespace Hostcall.Console

/-- A stage that a program passed. -/
inductive Note where
  /-- A text was scanned: the numbers of its tokens and characters. -/
  | scanned (tokens characters : Nat)
  /-- Tokens were read: the numbers of statements and tokens. -/
  | parsed (statements tokens : Nat)
  /-- Statements were evaluated to the end: their number. -/
  | evaluated (statements : Nat)
deriving DecidableEq, Repr

/-- A note in one line. -/
def Note.line : Note → String
  | .scanned tokens characters =>
      "callchain.lexer: lexed " ++ toString tokens ++ " token(s) from " ++
        toString characters ++ " char(s)"
  | .parsed statements tokens =>
      "callchain.parser: parsed " ++ toString statements ++ " statement(s) from " ++
        toString tokens ++ " token(s)"
  | .evaluated statements =>
      "callchain.runtime: evaluated " ++ toString statements ++ " statement(s)"

/-- The text that was shown, and the notes in the order in which they were made. -/
structure Transcript where
  shown : String
  notes : List Note
deriving DecidableEq, Repr

namespace Transcript

/-- Nothing was shown and noted. -/
def empty : Transcript :=
  ⟨"", []⟩

/-- Show a text. -/
def write (transcript : Transcript) (text : String) : Transcript :=
  { transcript with shown := transcript.shown ++ text }

/-- Show a line. -/
def writeLine (transcript : Transcript) (line : String) : Transcript :=
  transcript.write (line ++ "\n")

/-- Make a note. -/
def note (transcript : Transcript) (note : Note) : Transcript :=
  { transcript with notes := transcript.notes ++ [note] }

/-- Show values in one line, as the demonstration host puts them out. -/
def putOut (values : List (Value Demo.Object)) (transcript : Transcript) : Transcript :=
  transcript.writeLine (Demo.displayLine values)

end Transcript

end Hostcall.Console
