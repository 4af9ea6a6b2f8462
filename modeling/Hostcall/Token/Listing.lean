import Hostcall.Token.Basic

/-!
# Token listings

A listing shows one token per line: the kind, filled up to ten columns, and the
quoted text.  Quoting keeps every text inside its line.
-/

namespace Hostcall.Token

/-- The label of a kind, filled up with spaces to ten columns. -/
def kindColumn (kind : TokenKind) : String :=
  kind.label ++ String.ofList (List.replicate (10 - kind.label.length) ' ')

/-- One line of a listing. -/
def listingLine (token : Token) : String :=
  kindColumn token.kind ++ " " ++ Text.quoted token.value

/-- The listing of a token list. -/
def listing (tokens : List Token) : String :=
  "\n".intercalate (tokens.map listingLine)

end Hostcall.Token
