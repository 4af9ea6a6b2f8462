import Hostcall.Token.Scan

/-!
# A scanner that is driven by hand

A scanner stands somewhere in a text and keeps the tokens of its last complete
pass.  It can be moved by single characters, strings or names, and can at any
time be told to read the remaining text into tokens.  Moving past the end is
allowed: the position then counts on while nothing remains.
-/

namespace Hostcall.Token

/-- A place in a text, the text that remains there, and the tokens of the last pass. -/
structure Scanner where
  position : Nat
  remaining : List Char
  tokens : List Token
deriving DecidableEq, Repr

namespace Scanner

/-- A scanner at the start of a text. -/
def ofSource (source : String) : Scanner :=
  ⟨0, source.toList, []⟩

/-- The character at the scanner, or NUL where no text remains. -/
def current (scanner : Scanner) : Char :=
  scanner.remaining.headD '\x00'

/-- No text remains. -/
def atEnd (scanner : Scanner) : Bool :=
  scanner.remaining.isEmpty

/-- Move over some characters of the remaining text, and further if it is shorter. -/
def moved (scanner : Scanner) (count : Nat) : Scanner :=
  { scanner with
    position := scanner.position + count
    remaining := scanner.remaining.drop count }

@[simp]
theorem position_moved
    (scanner : Scanner)
    (count : Nat) :
    (scanner.moved count).position = scanner.position + count :=
  rfl

@[simp]
theorem remaining_moved
    (scanner : Scanner)
    (count : Nat) :
    (scanner.moved count).remaining = scanner.remaining.drop count :=
  rfl

@[simp]
theorem tokens_moved
    (scanner : Scanner)
    (count : Nat) :
    (scanner.moved count).tokens = scanner.tokens :=
  rfl

/-- Take the character at the scanner; at the end NUL is taken again and again. -/
def advance (scanner : Scanner) : Char × Scanner :=
  (scanner.current, scanner.moved 1)

/--
Take a string.  The character at the scanner counts as its opening quote,
whatever it is.  Without a closing quote the scanner is left at the end.
-/
def readString (scanner : Scanner) : Except UnterminatedString String × Scanner :=
  let inside := scanner.remaining.tail
  match splitAtQuote inside with
  | none => (.error ⟨scanner.position⟩, scanner.moved (inside.length + 1))
  | some (text, _) => (.ok (String.ofList text), scanner.moved (text.length + 2))

/-- Take the letters at the scanner, if there are any. -/
def readName (scanner : Scanner) : String × Scanner :=
  let name := scanner.remaining.takeWhile Text.isLetter
  (String.ofList name, scanner.moved name.length)

/-- Keep a token behind those that are kept already. -/
def keep (scanner : Scanner) (token : Token) : Scanner :=
  { scanner with tokens := scanner.tokens ++ [token] }

@[simp]
theorem position_keep
    (scanner : Scanner)
    (token : Token) :
    (scanner.keep token).position = scanner.position :=
  rfl

@[simp]
theorem remaining_keep
    (scanner : Scanner)
    (token : Token) :
    (scanner.keep token).remaining = scanner.remaining :=
  rfl

/-! ## Reading all the rest -/

variable {scanner : Scanner}

theorem length_remaining_pos
    (inside : ¬scanner.atEnd = true) :
    0 < scanner.remaining.length := by
  simpa [atEnd, List.length_pos_iff] using inside

theorem length_advance_lt
    (inside : ¬scanner.atEnd = true) :
    scanner.advance.2.remaining.length < scanner.remaining.length := by
  have := length_remaining_pos inside
  simp only [advance, remaining_moved, List.length_drop]
  omega

/-- A string takes at least what counts as its opening quote. -/
theorem length_readString_lt
    (inside : ¬scanner.atEnd = true) :
    scanner.readString.2.remaining.length < scanner.remaining.length := by
  have := length_remaining_pos inside
  rw [readString]
  split <;> simp only [remaining_moved, List.length_drop] <;> omega

/-- A name takes at least the letter that it begins with. -/
theorem length_readName_lt
    (inside : ¬scanner.atEnd = true)
    (letter : Text.isLetter scanner.current = true) :
    scanner.readName.2.remaining.length < scanner.remaining.length := by
  rcases scanner with ⟨position, _ | ⟨character, rest⟩, tokens⟩
  · simp [atEnd] at inside
  · have taken : List.takeWhile Text.isLetter (character :: rest) =
        character :: rest.takeWhile Text.isLetter :=
      List.takeWhile_cons_of_pos letter
    simp only [readName, taken, remaining_moved, List.length_drop, List.length_cons]
    omega

/-- Take what stands at the scanner, and keep its token, until no text remains. -/
def gather (scanner : Scanner) : Except UnterminatedString (List Token) × Scanner :=
  if _inside : scanner.atEnd then
    (.ok scanner.tokens, scanner)
  else if isParenthesis scanner.current then
    gather (scanner.advance.2.keep ⟨.call, String.singleton scanner.current⟩)
  else if isDelimiter scanner.current then
    gather (scanner.advance.2.keep ⟨.property, String.singleton scanner.current⟩)
  else if scanner.current = '"' then
    match _taken : scanner.readString with
    | (.error failure, after) => (.error failure, after)
    | (.ok text, after) => gather (after.keep ⟨.string, text⟩)
  else if _letter : Text.isLetter scanner.current then
    match _taken : scanner.readName with
    | (name, after) => gather (after.keep ⟨.identifier, name⟩)
  else
    gather scanner.advance.2
termination_by scanner.remaining.length
decreasing_by
  · exact length_advance_lt _inside
  · exact length_advance_lt _inside
  · have shorter := length_readString_lt _inside
    rwa [_taken] at shorter
  · have shorter := length_readName_lt _inside _letter
    rwa [_taken] at shorter
  · exact length_advance_lt _inside

/--
Read the remaining text into tokens, in place of those of the last pass.  When
a string is left open the tokens before it are kept.
-/
def tokenize (scanner : Scanner) : Except UnterminatedString (List Token) × Scanner :=
  gather { scanner with tokens := [] }

end Scanner

end Hostcall.Token
