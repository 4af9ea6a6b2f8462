import Hostcall.Proofs.Token.Quotes
import Hostcall.Text.Lines

/-!
# Line endings between tokens

A program that is read from a file has its line endings unified.  Outside
strings a line ending is inert, whatever its form, and neither half of one
belongs to a name or is a quote.  So a text and the same text with unified line
endings have the same tokens, except that line endings are unified inside the
strings, and in both or in neither of them a string is left open.

A carriage return and the line feed behind it become one character, so line
endings cannot be unified one character after another.  What saves the
induction is that such a pair never lies on both sides of a token's boundary.
-/

namespace Hostcall

namespace Text

/-! ## Unified line endings -/

@[simp]
theorem unifyLineEndings_nil : unifyLineEndings [] = [] := by
  rw [unifyLineEndings]

/-- A carriage return is a line ending by itself, unless a line feed follows. -/
theorem unifyLineEndings_return
    (text : List Char) :
    unifyLineEndings ('\r' :: text) =
      if text.head? = some '\n' then unifyLineEndings text else '\n' :: unifyLineEndings text := by
  cases text with
  | nil => simp [unifyLineEndings]
  | cons character rest =>
      by_cases lineFeed : character = '\n'
      · subst lineFeed
        simp [unifyLineEndings]
      · rw [if_neg (by simpa using lineFeed), unifyLineEndings]
        rintro _ ⟨⟩
        exact lineFeed rfl

/-- Every other character is kept. -/
theorem unifyLineEndings_cons
    {character : Char}
    (noReturn : character ≠ '\r')
    (text : List Char) :
    unifyLineEndings (character :: text) = character :: unifyLineEndings text := by
  rw [unifyLineEndings]
  · intro _ same
    exact absurd same noReturn
  · exact noReturn

/-- Texts are unified piece by piece, if no piece behind another begins with a line feed. -/
theorem unifyLineEndings_append
    (front : List Char)
    {behind : List Char}
    (apart : behind.head? ≠ some '\n') :
    unifyLineEndings (front ++ behind) = unifyLineEndings front ++ unifyLineEndings behind := by
  induction front with
  | nil => rw [unifyLineEndings_nil, List.nil_append, List.nil_append]
  | cons character rest inductionHypothesis =>
      by_cases isReturn : character = '\r'
      · subst isReturn
        have follows : (rest ++ behind).head? = some '\n' ↔ rest.head? = some '\n' := by
          cases rest with
          | nil => simpa using apart
          | cons => rfl
        rw [List.cons_append, unifyLineEndings_return, unifyLineEndings_return,
          inductionHypothesis]
        simp only [follows]
        split <;> rfl
      · rw [List.cons_append, unifyLineEndings_cons isReturn, unifyLineEndings_cons isReturn,
          inductionHypothesis, List.cons_append]

/-- Where there is no carriage return, there is nothing to be unified. -/
theorem unifyLineEndings_append_of_notMem
    {front : List Char}
    (noReturn : '\r' ∉ front)
    (behind : List Char) :
    unifyLineEndings (front ++ behind) = front ++ unifyLineEndings behind := by
  induction front with
  | nil => rfl
  | cons character rest inductionHypothesis =>
      rw [List.mem_cons, not_or] at noReturn
      rw [List.cons_append, unifyLineEndings_cons (Ne.symm noReturn.1),
        inductionHypothesis noReturn.2, List.cons_append]

/-- No character is put in but line feeds. -/
theorem eq_lineFeed_or_mem_of_mem_unifyLineEndings
    {character : Char}
    {text : List Char}
    (member : character ∈ unifyLineEndings text) :
    character = '\n' ∨ character ∈ text := by
  induction text with
  | nil => simp at member
  | cons first rest inductionHypothesis =>
      by_cases isReturn : first = '\r'
      · subst isReturn
        rw [unifyLineEndings_return] at member
        grind
      · rw [unifyLineEndings_cons isReturn] at member
        grind

/-- The text with unified line endings. -/
def unified (text : String) : String :=
  String.ofList (unifyLineEndings text.toList)

end Text

namespace Token

/-! ## Tokens with unified line endings -/

/-- The token as it stands in the text with unified line endings: only strings hold any. -/
def unified (token : Token) : Token :=
  match token.kind with
  | .string => ⟨.string, Text.unified token.value⟩
  | _ => token

theorem endsName_unifyLineEndings
    {text : List Char}
    (ends : EndsName text) :
    EndsName (Text.unifyLineEndings text) := by
  cases text with
  | nil => simp
  | cons character rest =>
      rw [endsName_cons] at ends
      by_cases isReturn : character = '\r'
      · subst isReturn
        rw [Text.unifyLineEndings_return]
        split
        · next follows =>
            obtain ⟨others, rfl⟩ := List.head?_eq_some_iff.mp follows
            rw [Text.unifyLineEndings_cons (by decide), endsName_cons]
            decide
        · rw [endsName_cons]
          decide
      · rwa [Text.unifyLineEndings_cons isReturn, endsName_cons]

/-- What spells tokens still does so with unified line endings. -/
theorem Spelling.unified
    {text : List Char}
    {tokens : List Token}
    (spelling : Spelling text tokens) :
    Spelling (Text.unifyLineEndings text) (tokens.map Token.unified) := by
  -- A token begins with no carriage return, so that it is met as it stands.
  have other {kind : Char → Bool} {character : Char}
      (ofKind : kind character = true)
      (noReturn : kind '\r' = false) :
      character ≠ '\r' := by
    rintro rfl
    simp [noReturn] at ofKind
  induction spelling with
  | nil =>
      rw [Text.unifyLineEndings_nil]
      exact .nil
  | @inert character text tokens inert rest inductionHypothesis =>
      by_cases isReturn : character = '\r'
      · subst isReturn
        rw [Text.unifyLineEndings_return]
        split
        · exact inductionHypothesis
        · exact .inert (by decide) inductionHypothesis
      · rw [Text.unifyLineEndings_cons isReturn]
        exact .inert inert inductionHypothesis
  | parenthesis parenthesis _ inductionHypothesis =>
      rw [Text.unifyLineEndings_cons (other parenthesis (by decide))]
      exact .parenthesis parenthesis inductionHypothesis
  | delimiter delimiter _ inductionHypothesis =>
      rw [Text.unifyLineEndings_cons (other delimiter (by decide))]
      exact .delimiter delimiter inductionHypothesis
  | @string inside text tokens quotable _ inductionHypothesis =>
      have quotable' : '"' ∉ Text.unifyLineEndings inside := by
        intro member
        rcases Text.eq_lineFeed_or_mem_of_mem_unifyLineEndings member with lineFeed | member
        · cases lineFeed
        · exact quotable member
      rw [Text.unifyLineEndings_cons (by decide), Text.unifyLineEndings_append _ (by simp),
        Text.unifyLineEndings_cons (by decide)]
      simpa [Token.unified, Text.unified] using Spelling.string quotable' inductionHypothesis
  | @name first others text tokens letter letters ends _ inductionHypothesis =>
      have noReturn : '\r' ∉ first :: others := by
        intro member
        have allLetters : ∀ character ∈ first :: others, Text.isLetter character = true :=
          List.forall_mem_cons.mpr ⟨letter, letters⟩
        exact other (allLetters _ member) (by decide) rfl
      rw [← List.cons_append, Text.unifyLineEndings_append_of_notMem noReturn]
      exact .name letter letters (endsName_unifyLineEndings ends) inductionHypothesis

/-! ## Texts with unified line endings -/

variable {source : String}

/-- A text that has tokens has the same ones with unified line endings. -/
theorem tokenize_unified_of_ok
    {tokens : List Token}
    (tokenized : tokenize source = .ok tokens) :
    tokenize (Text.unified source) = .ok (tokens.map unified) := by
  rw [tokenize_eq_ok_iff] at tokenized ⊢
  rw [Text.unified, String.toList_ofList]
  exact tokenized.unified

/-- A string that is left open is left open with unified line endings too. -/
theorem tokenize_unified_of_error
    {failure : UnterminatedString}
    (failed : tokenize source = .error failure) :
    ∃ failure', tokenize (Text.unified source) = .error failure' := by
  rcases tokenize_eq_error_iff.mp failed with ⟨tokens, scanned⟩
  rcases scan_eq_unterminated_iff.mp scanned with
    ⟨before, after, divided, _, spelling, last⟩
  have last' : '"' ∉ Text.unifyLineEndings after := by
    intro member
    rcases Text.eq_lineFeed_or_mem_of_mem_unifyLineEndings member with lineFeed | member
    · cases lineFeed
    · exact last member
  have divided' : (Text.unified source).toList =
      Text.unifyLineEndings before ++ '"' :: Text.unifyLineEndings after := by
    rw [Text.unified, String.toList_ofList, divided, Text.unifyLineEndings_append _ (by simp),
      Text.unifyLineEndings_cons (by decide)]
  refine ⟨⟨0 + (Text.unifyLineEndings before).length⟩, ?_⟩
  rw [tokenize_eq_error_iff, divided']
  exact ⟨_, spelling.unified.scan_unclosed last' 0⟩

/-- A token without a carriage return is the same with unified line endings. -/
theorem unified_of_notMem
    {token : Token}
    (noReturn : token.kind = .string → '\r' ∉ token.value.toList) :
    token.unified = token := by
  rcases token with ⟨kind, value⟩
  cases kind with
  | string =>
      have same := Text.unifyLineEndings_append_of_notMem (noReturn rfl) []
      rw [List.append_nil, Text.unifyLineEndings_nil, List.append_nil] at same
      rw [unified, Text.unified, same, String.ofList_toList]
  | identifier => rfl
  | call => rfl
  | property => rfl

end Token

end Hostcall
