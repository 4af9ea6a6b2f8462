import Hostcall.Tree.Reading

/-!
# A reader that is driven by hand

A reader stands somewhere in a token list.  It can be moved by single tokens,
asked about the token at it, and told to read one statement, what belongs to a
name, the argument lists of a call, or all remaining statements.  A reading
that fails leaves the reader where the tokens ran out.  Moving past the end is
allowed: the position then counts on while nothing remains.
-/

namespace Hostcall.Node

/-- A place in a token list and the tokens that remain there. -/
structure Reader where
  position : Nat
  remaining : List Token
deriving DecidableEq, Repr

namespace Reader

/-- A reader at the start of a token list. -/
def ofTokens (tokens : List Token) : Reader :=
  ⟨0, tokens⟩

/-- The token at the reader, if one remains. -/
def current (reader : Reader) : Option Token :=
  reader.remaining.head?

/-- No token remains. -/
def atEnd (reader : Reader) : Bool :=
  reader.remaining.isEmpty

/-- The token at the reader is a call token with exactly this text. -/
def checkCall (reader : Reader) (value : String) : Bool :=
  reader.current.any (·.isCall value)

/-- The token at the reader is an access delimiter. -/
def checkProperty (reader : Reader) : Bool :=
  reader.current.any (·.kind == .property)

/-- Move over some tokens, and further if fewer remain. -/
def moved (reader : Reader) (count : Nat) : Reader :=
  ⟨reader.position + count, reader.remaining.drop count⟩

@[simp]
theorem position_moved
    (reader : Reader)
    (count : Nat) :
    (reader.moved count).position = reader.position + count :=
  rfl

@[simp]
theorem remaining_moved
    (reader : Reader)
    (count : Nat) :
    (reader.moved count).remaining = reader.remaining.drop count :=
  rfl

@[simp]
theorem moved_zero
    (reader : Reader) :
    reader.moved 0 = reader :=
  rfl

@[simp]
theorem moved_moved
    (reader : Reader)
    (first second : Nat) :
    (reader.moved first).moved second = reader.moved (first + second) := by
  simp [moved, Nat.add_assoc]

/-- Take the token at the reader, if one remains, and move on in either case. -/
def advance (reader : Reader) : Option Token × Reader :=
  (reader.current, reader.moved 1)

/--
The outcome of a reading that began at the reader: places are counted from the
start of the tokens, and the reader moves behind what was taken, or to where
the tokens ran out.
-/
def settle
    {Content : Type}
    (reader : Reader) :
    Except UnterminatedCall (Reading Content) → Except UnterminatedCall Content × Reader
  | .error failure => (.error (failure.shift reader.position), reader.moved failure.reached)
  | .ok read => (.ok read.content, reader.moved read.taken)

/-- Read the token at the reader and the statement that it begins, if it begins one. -/
def readStatement (reader : Reader) : Except UnterminatedCall (Option Node) × Reader :=
  match reader.remaining with
  | [] => (.ok none, reader.moved 1)
  | token :: following => (reader.moved 1).settle (Node.readStatement token following)

/-- Read what belongs to a name that stands before the reader. -/
def readName (reader : Reader) (name : String) : Except UnterminatedCall Node × Reader :=
  reader.settle (Node.readName name reader.remaining)

/--
Read a call by name.  The token at the reader counts as the opening
parenthesis, whatever it is.
-/
def readCall (reader : Reader) (name : Option String) : Except UnterminatedCall Node × Reader :=
  match reader.settle (readArgumentLists reader.remaining) with
  | (.error failure, moved) => (.error failure, moved)
  | (.ok lists, moved) => (.ok (ofArgumentLists name lists), moved)

/-- Read all statements that remain. -/
def readStatements (reader : Reader) : Except UnterminatedCall (List Node) × Reader :=
  reader.settle (Node.readStatements reader.remaining)

end Reader

end Hostcall.Node
