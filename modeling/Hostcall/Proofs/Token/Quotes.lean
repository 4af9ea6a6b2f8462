import Hostcall.Proofs.Token.Spelling
import Mathlib.Algebra.Ring.Parity

/-!
# Quotes

Quotes open and close strings in turn, whatever stands between them.  So a
string is left open in a text exactly if the number of its quotes is odd, and
it is the last quote that opened it.

The scan counts no quotes.  When it stops at an open string, it has passed a
text that spells the tokens found so far, and behind the quote there is no
other one; a text that spells tokens holds an even number of quotes.
-/

namespace Hostcall.Token

/-! ## Where a string is left open -/

/-- A text that is spelled up to a last quote is scanned up to there. -/
theorem Spelling.scan_unclosed
    {before after : List Char}
    {tokens : List Token}
    (spelling : Spelling before tokens)
    (last : '"' ∉ after)
    (offset : Nat) :
    scan offset (before ++ '"' :: after) = ⟨tokens, some (offset + before.length)⟩ := by
  induction spelling generalizing offset with
  | nil => exact scan_quote_of_none (splitAtQuote_eq_none_iff.mpr last) offset
  | inert inert _ scanned =>
      rw [List.cons_append, scan_of_isInert inert, scanned]
      simp [Nat.add_right_comm, Nat.add_assoc]
  | parenthesis parenthesis _ scanned =>
      rw [List.cons_append, scan_of_isParenthesis parenthesis, scanned]
      simp [Scan.push, Nat.add_right_comm, Nat.add_assoc]
  | delimiter delimiter _ scanned =>
      rw [List.cons_append, scan_of_isDelimiter delimiter, scanned]
      simp [Scan.push, Nat.add_right_comm, Nat.add_assoc]
  | @string inside text tokens quotable _ scanned =>
      have closed : splitAtQuote (inside ++ '"' :: (text ++ '"' :: after)) =
          some (inside, text ++ '"' :: after) :=
        splitAtQuote_eq_some_iff.mpr ⟨rfl, quotable⟩
      rw [List.cons_append, List.append_assoc, List.cons_append, scan_quote_of_some closed,
        scanned]
      simp [Scan.push]
      omega
  | @name first others text tokens letter letters ends _ scanned =>
      have stops : EndsName (text ++ '"' :: after) := ends.append (by simp; decide)
      rw [List.cons_append, List.append_assoc, scan_of_isLetter letter,
        takeWhile_letters letters stops, dropWhile_letters letters stops, scanned]
      simp [Scan.push]
      omega

/-- What ends a name at the beginning of a text ends it in front of any part of the text. -/
theorem EndsName.of_append
    {front behind : List Char}
    (ends : EndsName (front ++ behind)) :
    EndsName front := by
  cases front with
  | nil => exact endsName_nil
  | cons character text => simpa using ends

/-- Where the scan stops at an open string, the text before is spelled and no quote follows. -/
theorem exists_spelling_of_unterminated
    {place : Nat}
    (offset : Nat)
    (text : List Char)
    (unclosed : (scan offset text).unterminated = some place) :
    ∃ before after, text = before ++ '"' :: after ∧
      Spelling before (scan offset text).tokens ∧ '"' ∉ after := by
  fun_induction scan offset text with
  | case1 => simp at unclosed
  | case2 offset character rest parenthesis inductionHypothesis =>
      rcases inductionHypothesis unclosed with ⟨before, after, rfl, spelling, last⟩
      exact ⟨character :: before, after, rfl, .parenthesis parenthesis spelling, last⟩
  | case3 offset character rest _ delimiter inductionHypothesis =>
      rcases inductionHypothesis unclosed with ⟨before, after, rfl, spelling, last⟩
      exact ⟨character :: before, after, rfl, .delimiter delimiter spelling, last⟩
  | case4 offset rest undivided =>
      exact ⟨[], rest, rfl, .nil, splitAtQuote_eq_none_iff.mp undivided⟩
  | case5 offset rest inside behind divided _ _ inductionHypothesis =>
      rcases splitAtQuote_eq_some_iff.mp divided with ⟨rfl, quotable⟩
      rcases inductionHypothesis unclosed with ⟨before, after, rfl, spelling, last⟩
      exact ⟨'"' :: (inside ++ '"' :: before), after, by simp, .string quotable spelling, last⟩
  | case6 offset character rest _ _ _ letter tail inductionHypothesis =>
      rcases inductionHypothesis unclosed with ⟨before, after, divided, spelling, last⟩
      have letters : ∀ other ∈ rest.takeWhile Text.isLetter, Text.isLetter other = true :=
        List.all_eq_true.mp List.all_takeWhile
      have ends : EndsName before := by
        have stops := endsName_dropWhile rest
        rw [divided] at stops
        exact stops.of_append
      have whole : rest = rest.takeWhile Text.isLetter ++ (before ++ '"' :: after) := by
        rw [← divided, List.takeWhile_append_dropWhile]
      refine ⟨character :: (rest.takeWhile Text.isLetter ++ before), after, ?_,
        .name letter letters ends spelling, last⟩
      rw [List.cons_append, List.append_assoc, ← whole]
  | case7 offset character rest noParenthesis noDelimiter noQuote noLetter inductionHypothesis =>
      have inert : isInert character = true := by
        simp [isInert, noParenthesis, noDelimiter, noQuote, noLetter]
      rcases inductionHypothesis unclosed with ⟨before, after, rfl, spelling, last⟩
      exact ⟨character :: before, after, rfl, .inert inert spelling, last⟩

/-- The scan stops exactly at a quote that is the last one behind a text that is spelled. -/
theorem scan_eq_unterminated_iff
    {offset place : Nat}
    {text : List Char}
    {tokens : List Token} :
    scan offset text = ⟨tokens, some place⟩ ↔
      ∃ before after, text = before ++ '"' :: after ∧ place = offset + before.length ∧
        Spelling before tokens ∧ '"' ∉ after := by
  constructor
  · intro scanned
    have unclosed : (scan offset text).unterminated = some place := by rw [scanned]
    rcases exists_spelling_of_unterminated offset text unclosed with
      ⟨before, after, rfl, spelling, last⟩
    rw [scanned] at spelling
    rw [spelling.scan_unclosed last] at scanned
    exact ⟨before, after, rfl, by simpa using scanned.symm, spelling, last⟩
  · rintro ⟨before, after, rfl, rfl, spelling, last⟩
    exact spelling.scan_unclosed last offset

theorem tokenize_eq_error_iff
    {source : String}
    {failure : UnterminatedString} :
    tokenize source = .error failure ↔
      ∃ tokens, scan 0 source.toList = ⟨tokens, some failure.offset⟩ := by
  rcases failure with ⟨offset⟩
  simp only [tokenize]
  rcases scan 0 source.toList with ⟨tokens, _ | place⟩ <;> simp

/-! ## Counting quotes -/

/-- The quotes of a text that spells tokens come in pairs. -/
theorem Spelling.even_quotes
    {text : List Char}
    {tokens : List Token}
    (spelling : Spelling text tokens) :
    Even (text.count '"') := by
  -- Outside strings a character of any kind is something else than a quote.
  have other {kind : Char → Bool} {character : Char}
      (ofKind : kind character = true)
      (noQuote : kind '"' = false) :
      character ≠ '"' := by
    rintro rfl
    simp [noQuote] at ofKind
  induction spelling with
  | nil => exact Even.zero
  | inert inert _ even =>
      rwa [List.count_cons_of_ne (other inert (by decide))]
  | parenthesis parenthesis _ even =>
      rwa [List.count_cons_of_ne (other parenthesis (by decide))]
  | delimiter delimiter _ even =>
      rwa [List.count_cons_of_ne (other delimiter (by decide))]
  | @string inside text _ quotable _ even =>
      have enclosed : ('"' :: (inside ++ '"' :: text)).count '"' = text.count '"' + 2 := by
        simp [List.count_eq_zero_of_not_mem quotable]
      rw [enclosed]
      exact even.add even_two
  | @name first others text _ letter letters _ _ even =>
      have noQuotes : '"' ∉ first :: others := by
        intro member
        have allLetters : ∀ character ∈ first :: others, Text.isLetter character = true :=
          List.forall_mem_cons.mpr ⟨letter, letters⟩
        exact other (allLetters _ member) (by decide) rfl
      rwa [← List.cons_append, List.count_append, List.count_eq_zero_of_not_mem noQuotes,
        Nat.zero_add]

/-- There is a quote at the offset, and none behind it. -/
def IsLastQuote (text : List Char) (offset : Nat) : Prop :=
  text[offset]? = some '"' ∧ '"' ∉ text.drop (offset + 1)

theorem isLastQuote_append
    {before after : List Char}
    (last : '"' ∉ after) :
    IsLastQuote (before ++ '"' :: after) before.length := by
  simpa [IsLastQuote] using last

/-- Of two quotes, one has the other behind it. -/
theorem IsLastQuote.unique
    {text : List Char}
    {offset offset' : Nat}
    (first : IsLastQuote text offset)
    (second : IsLastQuote text offset') :
    offset = offset' := by
  have notBefore {place further : Nat}
      (quote : text[further]? = some '"')
      (last : '"' ∉ text.drop (place + 1)) :
      ¬place < further := by
    intro before
    apply last
    refine List.mem_of_getElem? (i := further - (place + 1)) ?_
    rw [List.getElem?_drop, Nat.add_sub_of_le before]
    exact quote
  exact Nat.le_antisymm
    (Nat.le_of_not_lt (notBefore first.1 second.2))
    (Nat.le_of_not_lt (notBefore second.1 first.2))

/--
A text fails to have tokens exactly if it holds an odd number of quotes, and
the string that is left open is the one that the last quote opens.
-/
theorem unterminated_iff_odd_quotes
    (source : String) :
    ((∃ failure, tokenize source = .error failure) ↔ Odd (source.toList.count '"')) ∧
      ∀ offset, tokenize source = .error ⟨offset⟩ ↔
        Odd (source.toList.count '"') ∧ IsLastQuote source.toList offset := by
  cases tokenized : tokenize source with
  | ok tokens =>
      have even := (tokenize_eq_ok_iff.mp tokenized).even_quotes
      have notOdd := Nat.not_odd_iff_even.mpr even
      simp [notOdd]
  | error failure =>
      rcases tokenize_eq_error_iff.mp tokenized with ⟨tokens, scanned⟩
      rcases scan_eq_unterminated_iff.mp scanned with
        ⟨before, after, divided, place, spelling, last⟩
      rw [Nat.zero_add] at place
      have odd : Odd (source.toList.count '"') := by
        rw [divided, List.count_append, List.count_cons_self, List.count_eq_zero_of_not_mem last]
        exact spelling.even_quotes.add_one
      have isLast : IsLastQuote source.toList failure.offset := by
        rw [divided, place]
        exact isLastQuote_append last
      refine ⟨iff_of_true ⟨failure, rfl⟩ odd, fun offset => ?_⟩
      constructor
      · rintro ⟨⟩
        exact ⟨odd, isLast⟩
      · rintro ⟨_, isLast'⟩
        rw [← isLast.unique isLast']

end Hostcall.Token
