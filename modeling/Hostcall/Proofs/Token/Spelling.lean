import Hostcall.Token.Scan

/-!
# Spellings

A spelling writes tokens out as text: every token by its own characters, a
string between double quotes, and inert characters anywhere between tokens.  A
name is followed by something that is no letter, since letters would belong to
it.

The scan is the inverse of spelling.  It accepts exactly the texts that spell
some tokens, and answers with those tokens.  Whatever is proved by induction on
spellings therefore holds of every text that the scan accepts.
-/

namespace Hostcall.Token

/-! ## Tokens that can be spelled -/

/-- A name is one letter or more, and nothing else. -/
def IsName (text : String) : Prop :=
  text.toList ≠ [] ∧ ∀ character ∈ text.toList, Text.isLetter character = true

instance (text : String) : Decidable (IsName text) :=
  decidable_of_iff ((!text.toList.isEmpty && text.toList.all Text.isLetter) = true)
    (by simp [IsName])

/-- The inside of a string is any text without a double quote. -/
def IsQuotable (text : String) : Prop :=
  '"' ∉ text.toList

instance (text : String) : Decidable (IsQuotable text) :=
  decidable_of_iff ((!text.toList.contains '"') = true) (by simp [IsQuotable])

/-- A token whose text suits its kind. -/
def IsProper (token : Token) : Prop :=
  match token.kind with
  | .identifier => IsName token.value
  | .string => IsQuotable token.value
  | .call => token.value = "(" ∨ token.value = ")"
  | .property => token.value = "." ∨ token.value = "[" ∨ token.value = "]"

/-! ## Spellings -/

/-- A text that does not begin with a letter, and so cannot prolong a name. -/
def EndsName (text : List Char) : Prop :=
  ∀ character ∈ text.head?, Text.isLetter character = false

@[simp]
theorem endsName_nil : EndsName [] := by
  simp [EndsName]

@[simp]
theorem endsName_cons
    (character : Char)
    (text : List Char) :
    EndsName (character :: text) ↔ Text.isLetter character = false := by
  simp [EndsName]

theorem EndsName.append
    {front behind : List Char}
    (first : EndsName front)
    (second : EndsName behind) :
    EndsName (front ++ behind) := by
  cases front with
  | nil => exact second
  | cons character text => simpa using first

/-- The text spells the tokens. -/
inductive Spelling : List Char → List Token → Prop where
  | nil : Spelling [] []
  /-- An inert character spells nothing. -/
  | inert {character text tokens}
      (inert : isInert character = true)
      (rest : Spelling text tokens) :
      Spelling (character :: text) tokens
  | parenthesis {character text tokens}
      (parenthesis : isParenthesis character = true)
      (rest : Spelling text tokens) :
      Spelling (character :: text) (⟨.call, String.singleton character⟩ :: tokens)
  | delimiter {character text tokens}
      (delimiter : isDelimiter character = true)
      (rest : Spelling text tokens) :
      Spelling (character :: text) (⟨.property, String.singleton character⟩ :: tokens)
  | string {inside text tokens}
      (quotable : '"' ∉ inside)
      (rest : Spelling text tokens) :
      Spelling ('"' :: (inside ++ '"' :: text)) (⟨.string, String.ofList inside⟩ :: tokens)
  /-- A name takes all letters that there are. -/
  | name {first others text tokens}
      (letter : Text.isLetter first = true)
      (letters : ∀ character ∈ others, Text.isLetter character = true)
      (ends : EndsName text)
      (rest : Spelling text tokens) :
      Spelling (first :: (others ++ text))
        (⟨.identifier, String.ofList (first :: others)⟩ :: tokens)

namespace Spelling

/-- A proper string token in front, spelled by its quoted text. -/
theorem cons_string
    {value : String}
    {text : List Char}
    {tokens : List Token}
    (quotable : IsQuotable value)
    (rest : Spelling text tokens) :
    Spelling ('"' :: (value.toList ++ '"' :: text)) (⟨.string, value⟩ :: tokens) := by
  simpa using Spelling.string quotable rest

/-- A proper name token in front, spelled by its own text. -/
theorem cons_name
    {value : String}
    {text : List Char}
    {tokens : List Token}
    (name : IsName value)
    (ends : EndsName text)
    (rest : Spelling text tokens) :
    Spelling (value.toList ++ text) (⟨.identifier, value⟩ :: tokens) := by
  rcases name with ⟨nonempty, letters⟩
  rcases List.exists_cons_of_ne_nil nonempty with ⟨first, others, spelled⟩
  rw [spelled] at letters ⊢
  rcases List.forall_mem_cons.mp letters with ⟨letter, letters⟩
  have spelling := Spelling.name letter letters ends rest
  rwa [← spelled, String.ofList_toList] at spelling

/-- Only proper tokens are spelled. -/
theorem isProper
    {text : List Char}
    {tokens : List Token}
    (spelling : Spelling text tokens) :
    ∀ token ∈ tokens, token.IsProper := by
  induction spelling with
  | nil => simp
  | inert _ _ proper => exact proper
  | @parenthesis character text tokens parenthesis _ proper =>
      have own : IsProper ⟨.call, String.singleton character⟩ := by
        simp only [isParenthesis, Bool.or_eq_true, beq_iff_eq] at parenthesis
        rcases parenthesis with rfl | rfl
        · exact Or.inl rfl
        · exact Or.inr rfl
      exact List.forall_mem_cons.mpr ⟨own, proper⟩
  | @delimiter character text tokens delimiter _ proper =>
      have own : IsProper ⟨.property, String.singleton character⟩ := by
        simp only [isDelimiter, Bool.or_eq_true, beq_iff_eq] at delimiter
        rcases delimiter with (rfl | rfl) | rfl
        · exact Or.inl rfl
        · exact Or.inr (Or.inl rfl)
        · exact Or.inr (Or.inr rfl)
      exact List.forall_mem_cons.mpr ⟨own, proper⟩
  | @string inside text tokens quotable _ proper =>
      have own : IsProper ⟨.string, String.ofList inside⟩ := by
        simpa [IsProper, IsQuotable] using quotable
      exact List.forall_mem_cons.mpr ⟨own, proper⟩
  | @name first others text tokens letter letters _ _ proper =>
      have own : IsProper ⟨.identifier, String.ofList (first :: others)⟩ := by
        simpa [IsProper, IsName] using And.intro letter letters
      exact List.forall_mem_cons.mpr ⟨own, proper⟩

end Spelling

/-! ## The scan inverts spelling -/

/-- Letters up to something that is no letter are taken as a whole. -/
theorem takeWhile_letters
    {letters text : List Char}
    (inside : ∀ character ∈ letters, Text.isLetter character = true)
    (ends : EndsName text) :
    (letters ++ text).takeWhile Text.isLetter = letters := by
  rw [List.takeWhile_append_of_pos inside]
  cases text with
  | nil => simp
  | cons character text => simp [(endsName_cons character text).mp ends]

theorem dropWhile_letters
    {letters text : List Char}
    (inside : ∀ character ∈ letters, Text.isLetter character = true)
    (ends : EndsName text) :
    (letters ++ text).dropWhile Text.isLetter = text := by
  rw [List.dropWhile_append_of_pos inside]
  cases text with
  | nil => simp
  | cons character text => simp [(endsName_cons character text).mp ends]

/-- What follows on all letters does not begin with one. -/
theorem endsName_dropWhile
    (text : List Char) :
    EndsName (text.dropWhile Text.isLetter) := by
  intro character first
  have stop := List.head?_dropWhile_not Text.isLetter text
  rwa [Option.mem_def.mp first] at stop

/-- The tokens of a spelling are scanned from it, and no string is left open. -/
theorem Spelling.scan_eq
    {text : List Char}
    {tokens : List Token}
    (spelling : Spelling text tokens)
    (offset : Nat) :
    scan offset text = ⟨tokens, none⟩ := by
  induction spelling generalizing offset with
  | nil => exact scan_nil offset
  | inert inert _ scanned =>
      rw [scan_of_isInert inert, scanned]
  | parenthesis parenthesis _ scanned =>
      rw [scan_of_isParenthesis parenthesis, scanned]
      rfl
  | delimiter delimiter _ scanned =>
      rw [scan_of_isDelimiter delimiter, scanned]
      rfl
  | string quotable _ scanned =>
      rw [scan_quote_of_some (splitAtQuote_eq_some_iff.mpr ⟨rfl, quotable⟩), scanned]
      rfl
  | name letter letters ends _ scanned =>
      rw [scan_of_isLetter letter, takeWhile_letters letters ends,
        dropWhile_letters letters ends, scanned]
      rfl

/-- A text in which no string is left open spells the tokens that are scanned from it. -/
theorem spelling_of_scan
    (offset : Nat)
    (text : List Char)
    (closed : (scan offset text).unterminated = none) :
    Spelling text (scan offset text).tokens := by
  fun_induction scan offset text with
  | case1 offset => exact .nil
  | case2 offset character rest parenthesis inductionHypothesis =>
      exact .parenthesis parenthesis (inductionHypothesis closed)
  | case3 offset character rest _ delimiter inductionHypothesis =>
      exact .delimiter delimiter (inductionHypothesis closed)
  | case4 => simp at closed
  | case5 offset rest inside after divided _ _ inductionHypothesis =>
      rcases splitAtQuote_eq_some_iff.mp divided with ⟨rfl, quotable⟩
      exact .string quotable (inductionHypothesis closed)
  | case6 offset character rest _ _ _ letter tail inductionHypothesis =>
      have letters : ∀ other ∈ rest.takeWhile Text.isLetter, Text.isLetter other = true :=
        List.all_eq_true.mp List.all_takeWhile
      have spelling :=
        Spelling.name letter letters (endsName_dropWhile rest) (inductionHypothesis closed)
      rwa [List.takeWhile_append_dropWhile] at spelling
  | case7 offset character rest noParenthesis noDelimiter noQuote noLetter inductionHypothesis =>
      have inert : isInert character = true := by
        simp [isInert, noParenthesis, noDelimiter, noQuote, noLetter]
      exact .inert inert (inductionHypothesis closed)

/-- A text has exactly the tokens that it spells. -/
theorem tokenize_eq_ok_iff
    {source : String}
    {tokens : List Token} :
    tokenize source = .ok tokens ↔ Spelling source.toList tokens := by
  constructor
  · intro tokenized
    simp only [tokenize] at tokenized
    split at tokenized
    · next closed =>
        have spelling := spelling_of_scan 0 source.toList closed
        rwa [Except.ok.inj tokenized] at spelling
    · simp at tokenized
  · intro spelling
    simp [tokenize, spelling.scan_eq 0]

/-- Every token of a text is proper. -/
theorem isProper_of_tokenize
    {source : String}
    {tokens : List Token}
    (tokenized : tokenize source = .ok tokens) :
    ∀ token ∈ tokens, token.IsProper :=
  (tokenize_eq_ok_iff.mp tokenized).isProper

end Hostcall.Token
