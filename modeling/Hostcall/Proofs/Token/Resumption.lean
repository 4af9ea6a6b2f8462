import Hostcall.Proofs.Token.Quotes
import Hostcall.Token.Scanner

/-!
# Scanning on

A scanner that is driven by hand may come to stand anywhere: inside a string,
in the middle of a name, or past the end.  Wherever it stands, reading the
remaining text into tokens is the same as scanning that text by itself, except
that offsets count from the beginning of the whole text.

The scanner reads the rest token by token, moving over parentheses, delimiters,
strings and names as it does when it is told to; that it finds what the scan of
the text finds is proved along these moves.  What it has done before shows in
nothing but its position.  So the proof carries one fact through all
operations: what remains is the text from the position on.
-/

namespace Hostcall.Token

/-- What a scanner can be told to do. -/
inductive Operation where
  | advance
  | readString
  | readName
  | tokenize
deriving DecidableEq, Repr

namespace Scanner

/-- The scanner that an operation leaves behind, whether it succeeds or fails. -/
def perform (scanner : Scanner) : Operation → Scanner
  | .advance => scanner.advance.2
  | .readString => scanner.readString.2
  | .readName => scanner.readName.2
  | .tokenize => scanner.tokenize.2

def performAll (scanner : Scanner) (operations : List Operation) : Scanner :=
  operations.foldl perform scanner

/-! ## The pass -/

/-- How reading all the rest ends, if a scan of the rest finds the tokens given. -/
def passed (scanner : Scanner) (scanned : Scan) :
    Except UnterminatedString (List Token) × Scanner :=
  let tokens := scanner.tokens ++ scanned.tokens
  let finished := { scanner.moved scanner.remaining.length with tokens := tokens }
  match scanned.unterminated with
  | none => (.ok tokens, finished)
  | some offset => (.error ⟨offset⟩, finished)

theorem moved_moved_length
    {scanner : Scanner}
    {count : Nat}
    (inside : count ≤ scanner.remaining.length) :
    (scanner.moved count).moved (scanner.moved count).remaining.length =
      scanner.moved scanner.remaining.length := by
  simp only [moved, List.length_drop, List.drop_drop, Scanner.mk.injEq, and_true]
  constructor
  · omega
  · rw [Nat.add_sub_cancel' inside]

/-- Moving on changes nothing about where the pass ends. -/
theorem passed_moved
    {scanner : Scanner}
    {count : Nat}
    (inside : count ≤ scanner.remaining.length)
    (scanned : Scan) :
    (scanner.moved count).passed scanned = scanner.passed scanned := by
  simp only [passed, moved_moved_length inside, tokens_moved]

/-- A token that is kept on the way is the first one of the scan. -/
theorem passed_keep
    (scanner : Scanner)
    (token : Token)
    (scanned : Scan) :
    (scanner.keep token).passed scanned = scanner.passed (scanned.push token) := by
  simp only [passed, keep, moved, Scan.tokens_push, Scan.unterminated_push,
    List.append_assoc, List.singleton_append]

/-- So where the pass ends may be told behind a token just as well as before it. -/
theorem passed_scan_kept
    {scanner : Scanner}
    {count : Nat}
    {behind : List Char}
    (inside : count ≤ scanner.remaining.length)
    (dropped : scanner.remaining.drop count = behind)
    (token : Token) :
    ((scanner.moved count).keep token).passed
        (scan ((scanner.moved count).keep token).position
          ((scanner.moved count).keep token).remaining) =
      scanner.passed ((scan (scanner.position + count) behind).push token) := by
  rw [passed_keep, passed_moved inside, position_keep, remaining_keep, position_moved,
    remaining_moved, dropped]

/-- Where text remains, the character at the scanner is the first of it. -/
theorem exists_remaining_eq
    {scanner : Scanner}
    (inside : ¬scanner.atEnd = true) :
    ∃ rest, scanner.remaining = scanner.current :: rest ∧ scanner.remaining.drop 1 = rest := by
  rcases scanner with ⟨position, _ | ⟨character, rest⟩, tokens⟩
  · exact absurd rfl inside
  · exact ⟨rest, rfl, rfl⟩

theorem drop_length_takeWhile
    (text : List Char) :
    text.drop (text.takeWhile Text.isLetter).length = text.dropWhile Text.isLetter := by
  have divided := congrArg (List.drop (text.takeWhile Text.isLetter).length)
    (List.takeWhile_append_dropWhile (p := Text.isLetter) (l := text))
  rw [List.drop_left] at divided
  exact divided.symm

/-- Token by token the pass finds what a scan of the remaining text finds. -/
theorem gather_eq
    (scanner : Scanner) :
    scanner.gather = scanner.passed (scan scanner.position scanner.remaining) := by
  fun_induction gather scanner with
  | case1 scanner atEnd =>
      rcases scanner with ⟨position, remaining, tokens⟩
      obtain rfl : remaining = [] := List.isEmpty_iff.mp atEnd
      simp [passed, moved]
  | case2 scanner inside parenthesis inductionHypothesis =>
      rcases exists_remaining_eq inside with ⟨rest, remains, dropped⟩
      rw [inductionHypothesis, advance, passed_scan_kept (length_remaining_pos inside) dropped,
        remains, scan_of_isParenthesis parenthesis]
  | case3 scanner inside _ delimiter inductionHypothesis =>
      rcases exists_remaining_eq inside with ⟨rest, remains, dropped⟩
      rw [inductionHypothesis, advance, passed_scan_kept (length_remaining_pos inside) dropped,
        remains, scan_of_isDelimiter delimiter]
  | case4 scanner inside _ _ quote failure after taken =>
      rcases exists_remaining_eq inside with ⟨rest, remains, _⟩
      rw [quote] at remains
      rw [readString, remains, List.tail_cons] at taken
      split at taken
      · next unclosed =>
          cases taken
          rw [remains, scan_quote_of_none unclosed]
          simp [passed, moved, remains]
      · cases taken
  | case5 scanner inside _ _ quote text after taken inductionHypothesis =>
      rcases exists_remaining_eq inside with ⟨rest, remains, _⟩
      rw [quote] at remains
      rw [readString, remains, List.tail_cons] at taken
      split at taken
      · cases taken
      · next enclosed behind closed =>
          cases taken
          have divided := (splitAtQuote_eq_some_iff.mp closed).1
          have within : enclosed.length + 2 ≤ scanner.remaining.length := by
            rw [remains, divided]
            simp
          have dropped : scanner.remaining.drop (enclosed.length + 2) = behind := by
            rw [remains, divided]
            simp
          rw [inductionHypothesis, passed_scan_kept within dropped, remains,
            scan_quote_of_some closed, Nat.add_assoc]
  | case6 scanner inside _ _ _ letter name after taken inductionHypothesis =>
      rcases exists_remaining_eq inside with ⟨rest, remains, _⟩
      cases taken
      have letters : scanner.remaining.takeWhile Text.isLetter =
          scanner.current :: rest.takeWhile Text.isLetter := by
        rw [remains, List.takeWhile_cons_of_pos letter]
      have within := (List.takeWhile_prefix Text.isLetter (l := scanner.remaining)).length_le
      have dropped :
          scanner.remaining.drop (scanner.remaining.takeWhile Text.isLetter).length =
            rest.dropWhile Text.isLetter := by
        rw [letters, remains, List.length_cons, List.drop_succ_cons]
        exact drop_length_takeWhile rest
      rw [inductionHypothesis, passed_scan_kept within dropped, letters, remains,
        scan_of_isLetter letter, List.length_cons, Nat.add_assoc]
  | case7 scanner inside noParenthesis noDelimiter noQuote noLetter inductionHypothesis =>
      rcases exists_remaining_eq inside with ⟨rest, remains, dropped⟩
      have inert : isInert scanner.current = true := by
        simp [isInert, noParenthesis, noDelimiter, noQuote, noLetter]
      rw [inductionHypothesis, advance, passed_moved (length_remaining_pos inside),
        position_moved, remaining_moved, dropped, remains, scan_of_isInert inert]

theorem tokenize_eq
    (scanner : Scanner) :
    scanner.tokenize =
      ({ scanner with tokens := [] } : Scanner).passed
        (scan scanner.position scanner.remaining) :=
  gather_eq _

/-! ## What operations do to a scanner -/

/-- Every operation moves on, and reading all the rest is the only one that exchanges tokens. -/
theorem exists_moved
    (scanner : Scanner)
    (operation : Operation) :
    ∃ count tokens, scanner.perform operation = { scanner.moved count with tokens := tokens } ∧
      (operation = .tokenize ∨ tokens = scanner.tokens) := by
  cases operation with
  | advance => exact ⟨1, scanner.tokens, rfl, Or.inr rfl⟩
  | readString =>
      simp only [perform, readString]
      split
      · exact ⟨_, scanner.tokens, rfl, Or.inr rfl⟩
      · exact ⟨_, scanner.tokens, rfl, Or.inr rfl⟩
  | readName => exact ⟨_, scanner.tokens, rfl, Or.inr rfl⟩
  | tokenize =>
      simp only [perform, tokenize_eq, passed]
      split
      · exact ⟨_, _, rfl, Or.inl trivial⟩
      · exact ⟨_, _, rfl, Or.inl trivial⟩

/-- What remains is the text from the position on. -/
def StandsIn (scanner : Scanner) (source : String) : Prop :=
  scanner.remaining = source.toList.drop scanner.position

theorem StandsIn.perform
    {scanner : Scanner}
    {source : String}
    (stands : scanner.StandsIn source)
    (operation : Operation) :
    (scanner.perform operation).StandsIn source := by
  rcases scanner.exists_moved operation with ⟨count, tokens, performed, _⟩
  rw [performed, StandsIn, remaining_moved, position_moved, stands, List.drop_drop]

theorem StandsIn.performAll
    {scanner : Scanner}
    {source : String}
    (stands : scanner.StandsIn source)
    (operations : List Operation) :
    (scanner.performAll operations).StandsIn source := by
  induction operations generalizing scanner with
  | nil => exact stands
  | cons operation others inductionHypothesis =>
      exact inductionHypothesis (stands.perform operation)

theorem standsIn_ofSource
    (source : String) :
    (ofSource source).StandsIn source :=
  rfl

/-! ## Reading all the rest -/

/-- The text from a position on, which is empty past the end. -/
def textFrom (source : String) (position : Nat) : String :=
  String.ofList (source.toList.drop position)

/-- The first characters of a text. -/
def textUpTo (source : String) (length : Nat) : String :=
  String.ofList (source.toList.take length)

/-- Past the end nothing remains, and the position stays; otherwise the end is reached. -/
theorem StandsIn.position_end
    {scanner : Scanner}
    {source : String}
    (stands : scanner.StandsIn source) :
    scanner.position + scanner.remaining.length = max scanner.position source.length := by
  rw [stands, List.length_drop, String.length_toList]
  omega

theorem StandsIn.tokenize_of_ok
    {scanner : Scanner}
    {source : String}
    {tokens : List Token}
    (stands : scanner.StandsIn source)
    (tokenized : Token.tokenize (textFrom source scanner.position) = .ok tokens) :
    scanner.tokenize = (.ok tokens, ⟨max scanner.position source.length, [], tokens⟩) := by
  have spelling : Spelling scanner.remaining tokens := by
    rw [stands]
    simpa [textFrom] using tokenize_eq_ok_iff.mp tokenized
  simp [tokenize_eq, passed, spelling.scan_eq, moved, stands.position_end]

/-- An open string is reported where it is in the whole text, and the tokens before it are kept. -/
theorem StandsIn.tokenize_of_error
    {scanner : Scanner}
    {source : String}
    {failure : UnterminatedString}
    (stands : scanner.StandsIn source)
    (failed : Token.tokenize (textFrom source scanner.position) = .error failure) :
    ∃ tokens,
      Token.tokenize (textUpTo (textFrom source scanner.position) failure.offset) = .ok tokens ∧
        scanner.tokenize =
          (.error ⟨scanner.position + failure.offset⟩, ⟨source.length, [], tokens⟩) := by
  rcases tokenize_eq_error_iff.mp failed with ⟨tokens, scanned⟩
  rcases scan_eq_unterminated_iff.mp scanned with
    ⟨before, after, divided, place, spelling, last⟩
  rw [Nat.zero_add] at place
  have remaining : scanner.remaining = before ++ '"' :: after := by
    rw [stands, ← divided, textFrom, String.toList_ofList]
  refine ⟨tokens, ?_, ?_⟩
  · rw [tokenize_eq_ok_iff, textUpTo, String.toList_ofList, divided, place, List.take_left]
    exact spelling
  · have scannedHere : scan scanner.position scanner.remaining =
        ⟨tokens, some (scanner.position + failure.offset)⟩ := by
      rw [remaining, place]
      exact spelling.scan_unclosed last scanner.position
    have inside : scanner.position < source.length := by
      have drops := congrArg List.length (stands.symm.trans remaining)
      simp only [List.length_drop, String.length_toList, List.length_append,
        List.length_cons] at drops
      omega
    have finished := stands.position_end
    rw [Nat.max_eq_right (Nat.le_of_lt inside)] at finished
    simp [tokenize_eq, passed, scannedHere, moved, finished]

/--
However a scanner has been driven, reading the rest into tokens does what
scanning the rest by itself does: with the same tokens, or with the same open
string, whose offset is counted from the beginning of the whole text.  No
operation moves the scanner back, and only this one exchanges the tokens.
-/
theorem tokenize_resumes
    (source : String)
    (operations : List Operation) :
    let scanner := (ofSource source).performAll operations
    let rest := textFrom source scanner.position
    (match Token.tokenize rest with
      | .ok tokens =>
          scanner.tokenize = (.ok tokens, ⟨max scanner.position source.length, [], tokens⟩)
      | .error failure =>
          ∃ tokens, Token.tokenize (textUpTo rest failure.offset) = .ok tokens ∧
            scanner.tokenize =
              (.error ⟨scanner.position + failure.offset⟩, ⟨source.length, [], tokens⟩)) ∧
      ∀ operation, scanner.position ≤ (scanner.perform operation).position ∧
        (operation = .tokenize ∨ (scanner.perform operation).tokens = scanner.tokens) := by
  intro scanner rest
  have stands : scanner.StandsIn source := (standsIn_ofSource source).performAll operations
  constructor
  · cases tokenized : Token.tokenize rest with
    | ok tokens => exact stands.tokenize_of_ok tokenized
    | error failure => exact stands.tokenize_of_error tokenized
  · intro operation
    rcases scanner.exists_moved operation with ⟨count, tokens, performed, kept⟩
    rw [performed]
    exact ⟨Nat.le_add_right _ _, kept⟩

end Scanner

end Hostcall.Token
