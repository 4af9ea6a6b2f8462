import Hostcall.Proofs.Token.Spelling
import Mathlib.Data.List.Chain

/-!
# Layouts

A layout divides a text into the writing of its tokens and the gaps around
them.  Gaps are made of inert characters and may be empty, but between two
names there is always something.

Every text that can be divided so has exactly the tokens of the layout, and a
text that has tokens can be divided so.  The second half follows a spelling,
which takes inert characters one at a time, and gathers them into gaps.
-/

namespace Hostcall.Token

/-- The characters that a token is written with. -/
def characters (token : Token) : List Char :=
  match token.kind with
  | .string => '"' :: (token.value.toList ++ ['"'])
  | _ => token.value.toList

/-- A token and the gap behind it. -/
structure Piece where
  token : Token
  gap : List Char

/-- Two names do not stand next to each other without a gap. -/
def Piece.Before (piece next : Piece) : Prop :=
  piece.token.kind = .identifier → next.token.kind = .identifier → piece.gap ≠ []

/-- Proper tokens in a row, with gaps of inert characters around them. -/
structure Layout where
  margin : List Char
  pieces : List Piece
  margin_inert : ∀ character ∈ margin, isInert character = true
  gap_inert : ∀ piece ∈ pieces, ∀ character ∈ piece.gap, isInert character = true
  proper : ∀ piece ∈ pieces, piece.token.IsProper
  apart : pieces.IsChain Piece.Before

def piecesText (pieces : List Piece) : List Char :=
  pieces.flatMap fun piece => piece.token.characters ++ piece.gap

theorem piecesText_cons
    (piece : Piece)
    (pieces : List Piece) :
    piecesText (piece :: pieces) =
      piece.token.characters ++ (piece.gap ++ piecesText pieces) := by
  simp [piecesText]

namespace Layout

def text (layout : Layout) : List Char :=
  layout.margin ++ piecesText layout.pieces

def tokens (layout : Layout) : List Token :=
  layout.pieces.map Piece.token

/-- A text without tokens. -/
def empty : Layout where
  margin := []
  pieces := []
  margin_inert := by simp
  gap_inert := by simp
  proper := by simp
  apart := .nil

/-- Put an inert character in front. -/
def widen
    (layout : Layout)
    (character : Char)
    (inert : isInert character = true) :
    Layout :=
  { layout with
    margin := character :: layout.margin
    margin_inert := List.forall_mem_cons.mpr ⟨inert, layout.margin_inert⟩ }

/-- Put a token in front; what was the margin becomes the gap behind it. -/
def push
    (layout : Layout)
    (token : Token)
    (proper : token.IsProper)
    (apart : ∀ next ∈ layout.pieces.head?, Piece.Before ⟨token, layout.margin⟩ next) :
    Layout where
  margin := []
  pieces := ⟨token, layout.margin⟩ :: layout.pieces
  margin_inert := by simp
  gap_inert := List.forall_mem_cons.mpr ⟨layout.margin_inert, layout.gap_inert⟩
  proper := List.forall_mem_cons.mpr ⟨proper, layout.proper⟩
  apart := layout.apart.cons apart

@[simp]
theorem text_widen
    (layout : Layout)
    (character : Char)
    (inert : isInert character = true) :
    (layout.widen character inert).text = character :: layout.text :=
  rfl

@[simp]
theorem tokens_widen
    (layout : Layout)
    (character : Char)
    (inert : isInert character = true) :
    (layout.widen character inert).tokens = layout.tokens :=
  rfl

@[simp]
theorem text_push
    (layout : Layout)
    (token : Token)
    (proper : token.IsProper)
    (apart : ∀ next ∈ layout.pieces.head?, Piece.Before ⟨token, layout.margin⟩ next) :
    (layout.push token proper apart).text = token.characters ++ layout.text := by
  simp [push, text, piecesText_cons]

@[simp]
theorem tokens_push
    (layout : Layout)
    (token : Token)
    (proper : token.IsProper)
    (apart : ∀ next ∈ layout.pieces.head?, Piece.Before ⟨token, layout.margin⟩ next) :
    (layout.push token proper apart).tokens = token :: layout.tokens :=
  rfl

end Layout

/-! ## Where names end -/

theorem not_isLetter_of_isInert
    {character : Char}
    (inert : isInert character = true) :
    Text.isLetter character = false := by
  simp only [isInert, Bool.not_eq_true', Bool.or_eq_false_iff] at inert
  exact inert.2

theorem endsName_gap
    {gap : List Char}
    (inert : ∀ character ∈ gap, isInert character = true)
    (present : gap ≠ [])
    (text : List Char) :
    EndsName (gap ++ text) := by
  cases gap with
  | nil => exact absurd rfl present
  | cons character others =>
      rw [List.cons_append, endsName_cons]
      exact not_isLetter_of_isInert (inert character List.mem_cons_self)

/-- The writing of a name begins with a letter, and nothing else does. -/
theorem endsName_characters_iff
    {token : Token}
    (proper : token.IsProper)
    (text : List Char) :
    EndsName (token.characters ++ text) ↔ token.kind ≠ .identifier := by
  rcases token with ⟨kind, value⟩
  cases kind with
  | identifier =>
      obtain ⟨nonempty, letters⟩ : IsName value := proper
      rcases List.exists_cons_of_ne_nil nonempty with ⟨first, others, spelled⟩
      have letter := letters first (by simp [spelled])
      simp [characters, spelled, letter]
  | string => simp [characters, Text.isLetter]
  | call =>
      rcases proper with rfl | rfl <;> simp [characters, Text.isLetter]
  | property =>
      rcases proper with rfl | rfl | rfl <;> simp [characters, Text.isLetter]

/-! ## From layouts to spellings -/

theorem Spelling.gap
    {gap text : List Char}
    {tokens : List Token}
    (inert : ∀ character ∈ gap, isInert character = true)
    (rest : Spelling text tokens) :
    Spelling (gap ++ text) tokens := by
  induction gap with
  | nil => exact rest
  | cons character others inductionHypothesis =>
      rcases List.forall_mem_cons.mp inert with ⟨first, behind⟩
      exact .inert first (inductionHypothesis behind)

/-- A proper token is spelled by its characters, a name only where it ends. -/
theorem Spelling.token
    {token : Token}
    {text : List Char}
    {tokens : List Token}
    (proper : token.IsProper)
    (ends : token.kind = .identifier → EndsName text)
    (rest : Spelling text tokens) :
    Spelling (token.characters ++ text) (token :: tokens) := by
  rcases token with ⟨kind, value⟩
  cases kind with
  | identifier => exact .cons_name proper (ends rfl) rest
  | string => simpa [characters] using Spelling.cons_string proper rest
  | call =>
      rcases proper with rfl | rfl
      · exact .parenthesis (by decide : isParenthesis '(' = true) rest
      · exact .parenthesis (by decide : isParenthesis ')' = true) rest
  | property =>
      rcases proper with rfl | rfl | rfl
      · exact .delimiter (by decide : isDelimiter '.' = true) rest
      · exact .delimiter (by decide : isDelimiter '[' = true) rest
      · exact .delimiter (by decide : isDelimiter ']' = true) rest

/-- A name ends behind its piece: at a gap, or else at a token that is no name. -/
theorem endsName_behind
    {piece : Piece}
    {others : List Piece}
    (inert : ∀ character ∈ piece.gap, isInert character = true)
    (proper : ∀ other ∈ others, other.token.IsProper)
    (apart : ∀ next ∈ others.head?, piece.Before next)
    (name : piece.token.kind = .identifier) :
    EndsName (piece.gap ++ piecesText others) := by
  by_cases present : piece.gap = []
  · rw [present, List.nil_append]
    cases others with
    | nil => exact endsName_nil
    | cons next others =>
        rw [piecesText_cons, endsName_characters_iff (proper next List.mem_cons_self)]
        intro nextName
        exact apart next rfl name nextName present
  · exact endsName_gap inert present _

theorem spelling_of_pieces
    {pieces : List Piece}
    (inert : ∀ piece ∈ pieces, ∀ character ∈ piece.gap, isInert character = true)
    (proper : ∀ piece ∈ pieces, piece.token.IsProper)
    (apart : pieces.IsChain Piece.Before) :
    Spelling (piecesText pieces) (pieces.map Piece.token) := by
  induction pieces with
  | nil => exact .nil
  | cons piece others inductionHypothesis =>
      rcases List.forall_mem_cons.mp inert with ⟨gap, gaps⟩
      rcases List.forall_mem_cons.mp proper with ⟨own, behind⟩
      rcases List.isChain_cons.mp apart with ⟨before, chain⟩
      have rest := inductionHypothesis gaps behind chain
      rw [piecesText_cons, List.map_cons]
      exact .token own (endsName_behind gap behind before) (rest.gap gap)

theorem Layout.spelling
    (layout : Layout) :
    Spelling layout.text layout.tokens :=
  (spelling_of_pieces layout.gap_inert layout.proper layout.apart).gap layout.margin_inert

/-! ## From spellings to layouts -/

/-- A name can be put in front of a text that does not prolong it. -/
theorem Layout.apart_of_endsName
    {layout : Layout}
    (ends : EndsName layout.text)
    (token : Token) :
    ∀ next ∈ layout.pieces.head?, Piece.Before ⟨token, layout.margin⟩ next := by
  intro next first _ nextName noGap
  obtain ⟨others, pieces⟩ := List.head?_eq_some_iff.mp first
  have proper : next.token.IsProper := layout.proper next (by simp [pieces])
  have noMargin : layout.margin = [] := noGap
  rw [Layout.text, noMargin, pieces, List.nil_append, piecesText_cons,
    endsName_characters_iff proper] at ends
  exact ends nextName

theorem Spelling.exists_layout
    {text : List Char}
    {tokens : List Token}
    (spelling : Spelling text tokens) :
    ∃ layout : Layout, layout.text = text ∧ layout.tokens = tokens := by
  -- A token that is no name may stand before any other, whatever the gap.
  have free {token : Token} (noName : token.kind ≠ .identifier) (layout : Layout) :
      ∀ next ∈ layout.pieces.head?, Piece.Before ⟨token, layout.margin⟩ next := by
    intro next _ name
    exact absurd name noName
  induction spelling with
  | nil => exact ⟨.empty, rfl, rfl⟩
  | @inert character _ _ inert _ inductionHypothesis =>
      rcases inductionHypothesis with ⟨layout, rfl, rfl⟩
      exact ⟨layout.widen character inert, by simp⟩
  | @parenthesis character _ _ parenthesis rest inductionHypothesis =>
      rcases inductionHypothesis with ⟨layout, rfl, rfl⟩
      have proper := (Spelling.parenthesis parenthesis rest).isProper _ List.mem_cons_self
      exact ⟨layout.push _ proper (free (by simp) layout), by simp [characters]⟩
  | @delimiter character _ _ delimiter rest inductionHypothesis =>
      rcases inductionHypothesis with ⟨layout, rfl, rfl⟩
      have proper := (Spelling.delimiter delimiter rest).isProper _ List.mem_cons_self
      exact ⟨layout.push _ proper (free (by simp) layout), by simp [characters]⟩
  | string quotable rest inductionHypothesis =>
      rcases inductionHypothesis with ⟨layout, rfl, rfl⟩
      have proper := (Spelling.string quotable rest).isProper _ List.mem_cons_self
      exact ⟨layout.push _ proper (free (by simp) layout), by simp [characters]⟩
  | name letter letters ends rest inductionHypothesis =>
      rcases inductionHypothesis with ⟨layout, rfl, rfl⟩
      have proper := (Spelling.name letter letters ends rest).isProper _ List.mem_cons_self
      exact ⟨layout.push _ proper (layout.apart_of_endsName ends _), by simp [characters]⟩

/-- A text has exactly the tokens of its layouts, and can be laid out whenever it has tokens. -/
theorem tokenize_iff_layout
    {source : String}
    {tokens : List Token} :
    tokenize source = .ok tokens ↔
      ∃ layout : Layout, layout.text = source.toList ∧ layout.tokens = tokens := by
  rw [tokenize_eq_ok_iff]
  constructor
  · exact Spelling.exists_layout
  · rintro ⟨layout, written, rfl⟩
    rw [← written]
    exact layout.spelling

end Hostcall.Token
