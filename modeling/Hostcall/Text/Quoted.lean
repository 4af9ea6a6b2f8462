import Hostcall.Text.Printable

/-!
# Quoted text

The quoted form of a text is one line that shows every character.  It stands
between single quotes, or between double quotes when the text holds a single
quote and no double quote.  The backslash and the mark in use are escaped by a
backslash, line feed, carriage return and tab have letters of their own, and
every other character that is not printable is written by its code point in
two, four or eight hexadecimal digits.
-/

namespace Hostcall.Text

/-- The quotation mark for a text. -/
def quotationMark (text : List Char) : Char :=
  if '\'' ∈ text ∧ '"' ∉ text then '"' else '\''

/-- The last `width` hexadecimal digits of a number, in lower case. -/
def hexDigits : Nat → Nat → List Char
  | 0, _ => []
  | width + 1, number => hexDigits width (number / 16) ++ [Nat.digitChar (number % 16)]

@[simp]
theorem length_hexDigits
    (width number : Nat) :
    (hexDigits width number).length = width := by
  induction width generalizing number with
  | zero => rfl
  | succ width inductionHypothesis => simp [hexDigits, inductionHypothesis]

/-- A code point by number, in the shortest of the three widths. -/
def escapeCode (code : Nat) : List Char :=
  if code < 0x100 then '\\' :: 'x' :: hexDigits 2 code
  else if code < 0x10000 then '\\' :: 'u' :: hexDigits 4 code
  else '\\' :: 'U' :: hexDigits 8 code

/-- One character of a text between the given quotation marks. -/
def escapeCharacter (mark character : Char) : List Char :=
  if character = '\\' ∨ character = mark then ['\\', character]
  else if character = '\n' then ['\\', 'n']
  else if character = '\r' then ['\\', 'r']
  else if character = '\t' then ['\\', 't']
  else if isPrintable character then [character]
  else escapeCode character.toNat

/-- The inside of a quoted text. -/
def escapeAll (mark : Char) (text : List Char) : List Char :=
  text.flatMap (escapeCharacter mark)

@[simp]
theorem escapeAll_nil
    (mark : Char) :
    escapeAll mark [] = [] :=
  rfl

@[simp]
theorem escapeAll_cons
    (mark character : Char)
    (text : List Char) :
    escapeAll mark (character :: text) =
      escapeCharacter mark character ++ escapeAll mark text :=
  rfl

/-- The quoted form of a text. -/
def quoted (text : String) : String :=
  let mark := quotationMark text.toList
  String.ofList (mark :: (escapeAll mark text.toList ++ [mark]))

end Hostcall.Text
