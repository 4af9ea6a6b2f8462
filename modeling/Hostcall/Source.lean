import Hostcall.Token.Scan
import Hostcall.Tree.Reading

/-!
# Reading a source text

A source text is scanned into tokens and these are read into statements.
Either step can fail, each in its own way.
-/

namespace Hostcall

/-- Why a source text is not a program. -/
inductive SourceError where
  | unterminatedString (failure : UnterminatedString)
  | unterminatedCall (failure : UnterminatedCall)
deriving DecidableEq, Repr

/-- What is wrong, in words. -/
def SourceError.message : SourceError → String
  | .unterminatedString failure => failure.message
  | .unterminatedCall failure => failure.message

/-- The statements of a source text. -/
def readSource (source : String) : Except SourceError (List Node) :=
  match Token.tokenize source with
  | .error failure => .error (.unterminatedString failure)
  | .ok tokens =>
      match Node.parse tokens with
      | .error failure => .error (.unterminatedCall failure)
      | .ok body => .ok body

theorem readSource_eq_ok_iff
    {source : String}
    {body : List Node} :
    readSource source = .ok body ↔
      ∃ tokens, Token.tokenize source = .ok tokens ∧ Node.parse tokens = .ok body := by
  unfold readSource
  cases Token.tokenize source with
  | error failure => simp
  | ok tokens =>
      cases parsed : Node.parse tokens with
      | error failure => simp [parsed]
      | ok statements => simp [parsed]

end Hostcall
