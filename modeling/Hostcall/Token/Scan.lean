import Hostcall.Text.Letter
import Hostcall.Token.Basic

/-!
# From text to tokens

A text is read from left to right.  Parentheses and access delimiters are
tokens by themselves, a double quote opens a string that runs to the next
double quote, and letters gather into the longest name.  Every other character
is inert: it separates names and leaves no token.

The scan is total.  It answers with the tokens that it read and, when a string
was left open, with the place of its opening quote; `tokenize` is the view of
it that fails in that case.
-/

namespace Hostcall

/-- A string whose closing quote is missing, by the offset of its opening quote. -/
structure UnterminatedString where
  offset : Nat
deriving DecidableEq, Repr

/-- What is wrong, in words. -/
def UnterminatedString.message (failure : UnterminatedString) : String :=
  "[callchain @" ++ toString failure.offset ++ "] Lexer error: Unterminated string literal"

namespace Token

/-! ## The pieces of a text -/

/-- One of the two parentheses. -/
def isParenthesis (character : Char) : Bool :=
  character == '(' || character == ')'

/-- One of the delimiters that stand between a name and what is accessed on it. -/
def isDelimiter (character : Char) : Bool :=
  character == '.' || character == '[' || character == ']'

/-- A character that belongs to no token when it stands outside a string. -/
def isInert (character : Char) : Bool :=
  !(isParenthesis character || isDelimiter character || character == '"' ||
    Text.isLetter character)

/--
Divide a text at its first double quote into what stands before the quote and
what stands after it.
-/
def splitAtQuote : List Char → Option (List Char × List Char)
  | [] => none
  | character :: rest =>
      if character = '"' then
        some ([], rest)
      else
        match splitAtQuote rest with
        | none => none
        | some (before, after) => some (character :: before, after)

/-- A text divides exactly as its first double quote divides it. -/
theorem splitAtQuote_eq_some_iff
    {text before after : List Char} :
    splitAtQuote text = some (before, after) ↔
      text = before ++ '"' :: after ∧ '"' ∉ before := by
  induction text generalizing before with
  | nil => simp [splitAtQuote]
  | cons character rest inductionHypothesis =>
      by_cases quote : character = '"'
      · subst quote
        cases before with
        | nil => simp [splitAtQuote, eq_comm]
        | cons head tail =>
            simp only [splitAtQuote, if_true, Option.some.injEq, Prod.mk.injEq,
              List.cons_append, List.cons.injEq, List.mem_cons]
            grind
      · cases before with
        | nil =>
            simp only [splitAtQuote, if_neg quote, List.nil_append, List.cons.injEq]
            cases splitAtQuote rest <;> simp_all
        | cons head tail =>
            have step := @inductionHypothesis tail
            simp only [splitAtQuote, if_neg quote, List.cons_append, List.cons.injEq,
              List.mem_cons]
            cases found : splitAtQuote rest with
            | none => grind
            | some pair =>
                obtain ⟨first, second⟩ := pair
                grind

/-- A text does not divide exactly when it holds no double quote. -/
theorem splitAtQuote_eq_none_iff
    {text : List Char} :
    splitAtQuote text = none ↔ '"' ∉ text := by
  induction text with
  | nil => simp [splitAtQuote]
  | cons character rest inductionHypothesis =>
      by_cases quote : character = '"'
      · simp [splitAtQuote, quote]
      · have apart : '"' ≠ character := fun equal => quote equal.symm
        cases found : splitAtQuote rest with
        | none => simpa [splitAtQuote, quote, found, apart] using inductionHypothesis.1 found
        | some pair => simpa [splitAtQuote, quote, found, apart] using inductionHypothesis

theorem length_of_splitAtQuote
    {text before after : List Char}
    (divided : splitAtQuote text = some (before, after)) :
    text.length = before.length + after.length + 1 := by
  rw [(splitAtQuote_eq_some_iff.1 divided).1]
  simp
  omega

/-! ## The scan -/

/-- The tokens of a text, and the offset of the quote of a string left open. -/
structure Scan where
  tokens : List Token
  unterminated : Option Nat
deriving DecidableEq, Repr

/-- Put a token in front. -/
def Scan.push (token : Token) (scan : Scan) : Scan :=
  { scan with tokens := token :: scan.tokens }

@[simp]
theorem Scan.tokens_push
    (token : Token)
    (scan : Scan) :
    (scan.push token).tokens = token :: scan.tokens :=
  rfl

@[simp]
theorem Scan.unterminated_push
    (token : Token)
    (scan : Scan) :
    (scan.push token).unterminated = scan.unterminated :=
  rfl

/-- Read a text whose first character has the given offset. -/
def scan (offset : Nat) : List Char → Scan
  | [] => ⟨[], none⟩
  | character :: rest =>
      if isParenthesis character then
        (scan (offset + 1) rest).push ⟨.call, String.singleton character⟩
      else if isDelimiter character then
        (scan (offset + 1) rest).push ⟨.property, String.singleton character⟩
      else if character = '"' then
        match _divided : splitAtQuote rest with
        | none => ⟨[], some offset⟩
        | some (inside, after) =>
            (scan (offset + inside.length + 2) after).push ⟨.string, String.ofList inside⟩
      else if Text.isLetter character then
        let tail := rest.takeWhile Text.isLetter
        (scan (offset + tail.length + 1) (rest.dropWhile Text.isLetter)).push
          ⟨.identifier, String.ofList (character :: tail)⟩
      else
        scan (offset + 1) rest
termination_by text => text.length
decreasing_by
  · simp
  · simp
  · have := length_of_splitAtQuote _divided
    simp only [List.length_cons]
    omega
  · have := (List.dropWhile_suffix Text.isLetter (l := rest)).length_le
    simp only [List.length_cons]
    omega
  · simp

@[simp]
theorem scan_nil
    (offset : Nat) :
    scan offset [] = ⟨[], none⟩ := by
  rw [scan]

/-- A parenthesis is a token. -/
theorem scan_of_isParenthesis
    {character : Char}
    (parenthesis : isParenthesis character = true)
    (offset : Nat)
    (rest : List Char) :
    scan offset (character :: rest) =
      (scan (offset + 1) rest).push ⟨.call, String.singleton character⟩ := by
  rw [scan, if_pos parenthesis]

/-- An access delimiter is a token. -/
theorem scan_of_isDelimiter
    {character : Char}
    (delimiter : isDelimiter character = true)
    (offset : Nat)
    (rest : List Char) :
    scan offset (character :: rest) =
      (scan (offset + 1) rest).push ⟨.property, String.singleton character⟩ := by
  have noParenthesis : ¬isParenthesis character = true := by
    simp only [isDelimiter, Bool.or_eq_true, beq_iff_eq] at delimiter
    rcases delimiter with (rfl | rfl) | rfl <;> decide
  rw [scan, if_neg noParenthesis, if_pos delimiter]

/-- A quote without another one behind it leaves a string open. -/
theorem scan_quote_of_none
    {rest : List Char}
    (unclosed : splitAtQuote rest = none)
    (offset : Nat) :
    scan offset ('"' :: rest) = ⟨[], some offset⟩ := by
  rw [scan, if_neg (by decide), if_neg (by decide), if_pos rfl]
  split
  · rfl
  · simp_all

/-- A quote and the next one enclose a token. -/
theorem scan_quote_of_some
    {rest inside after : List Char}
    (closed : splitAtQuote rest = some (inside, after))
    (offset : Nat) :
    scan offset ('"' :: rest) =
      (scan (offset + inside.length + 2) after).push ⟨.string, String.ofList inside⟩ := by
  rw [scan, if_neg (by decide), if_neg (by decide), if_pos rfl]
  split
  · simp_all
  · simp_all

/-- A letter begins a name, which takes all letters that follow. -/
theorem scan_of_isLetter
    {character : Char}
    (letter : Text.isLetter character = true)
    (offset : Nat)
    (rest : List Char) :
    scan offset (character :: rest) =
      (scan (offset + (rest.takeWhile Text.isLetter).length + 1)
        (rest.dropWhile Text.isLetter)).push
          ⟨.identifier, String.ofList (character :: rest.takeWhile Text.isLetter)⟩ := by
  have different (other : Char) (noLetter : Text.isLetter other = false) :
      character ≠ other := by
    rintro rfl
    simp [noLetter] at letter
  have noParenthesis : ¬isParenthesis character = true := by
    simp [isParenthesis, different '(' (by decide), different ')' (by decide)]
  have noDelimiter : ¬isDelimiter character = true := by
    simp [isDelimiter, different '.' (by decide), different '[' (by decide),
      different ']' (by decide)]
  rw [scan, if_neg noParenthesis, if_neg noDelimiter, if_neg (different '"' (by decide)),
    if_pos letter]

/-- An inert character leaves no token. -/
theorem scan_of_isInert
    {character : Char}
    (inert : isInert character = true)
    (offset : Nat)
    (rest : List Char) :
    scan offset (character :: rest) = scan (offset + 1) rest := by
  simp only [isInert, Bool.not_eq_true', Bool.or_eq_false_iff, beq_eq_false_iff_ne] at inert
  obtain ⟨⟨⟨noParenthesis, noDelimiter⟩, noQuote⟩, noLetter⟩ := inert
  rw [scan, if_neg (by simp [noParenthesis]), if_neg (by simp [noDelimiter]), if_neg noQuote,
    if_neg (by simp [noLetter])]

/-- The tokens of a text, or the string that it leaves open. -/
def tokenize (source : String) : Except UnterminatedString (List Token) :=
  let scanned := scan 0 source.toList
  match scanned.unterminated with
  | none => .ok scanned.tokens
  | some offset => .error ⟨offset⟩

end Token

end Hostcall
