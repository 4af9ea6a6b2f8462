import Hostcall.Text.Quoted

/-!
# Tokens

A token has a kind and a text.  The text of a name or a string is free; the
text of a parenthesis or an access delimiter is normally the delimiter itself,
but nothing here relies on that: the reader only ever compares the text of a
call token with one parenthesis.
-/

namespace Hostcall

/-- What a token stands for. -/
inductive TokenKind where
  /-- A name. -/
  | identifier
  /-- A quoted string, of which the token keeps the inside. -/
  | string
  /-- A parenthesis of an argument list. -/
  | call
  /-- A delimiter between a name and what is accessed on it. -/
  | property
deriving DecidableEq, Repr

/-- The name under which listings show a kind. -/
def TokenKind.label : TokenKind → String
  | .identifier => "IDENTIFIER"
  | .string => "STRING"
  | .call => "CALL"
  | .property => "PROPERTY"

theorem TokenKind.label_injective
    {left right : TokenKind}
    (equal : left.label = right.label) :
    left = right := by
  cases left <;> cases right <;> simp [label] at equal ⊢

/-- A token: its kind and its text. -/
structure Token where
  kind : TokenKind
  value : String
deriving DecidableEq, Repr

namespace Token

/-- A call token with exactly this text. -/
def isCall (token : Token) (value : String) : Bool :=
  token.kind == .call && token.value == value

@[simp]
theorem isCall_iff
    (token : Token)
    (value : String) :
    token.isCall value = true ↔ token = ⟨.call, value⟩ := by
  cases token
  simp [isCall]

/-- A token in one line, its text quoted. -/
def describe (token : Token) : String :=
  "Token(" ++ token.kind.label ++ ", " ++ Text.quoted token.value ++ ")"

end Token

end Hostcall
