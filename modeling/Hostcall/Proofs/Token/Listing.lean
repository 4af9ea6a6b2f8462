import Hostcall.Proofs.Text.Quoted
import Hostcall.Token.Listing

/-!
# Listings

A listing says everything about the tokens that it lists, whichever texts they
have.  The kind fills a column of fixed width, so the quoted text begins at the
same place of every line.  The quoted text keeps to its line and is that of one
text only.
-/

namespace Hostcall.Token

/-! ## Lines -/

theorem length_kindColumn
    (kind : TokenKind) :
    (kindColumn kind).toList.length = 10 := by
  cases kind <;> decide

theorem lineFeed_notMem_kindColumn
    (kind : TokenKind) :
    '\n' ∉ (kindColumn kind).toList := by
  cases kind <;> decide

theorem kindColumn_injective : Function.Injective kindColumn := by
  intro left right same
  cases left <;> cases right <;> first | rfl | exact absurd same (by decide)

theorem toList_listingLine
    (token : Token) :
    (listingLine token).toList =
      (kindColumn token.kind).toList ++ ' ' :: (Text.quoted token.value).toList := by
  simp [listingLine]

theorem listingLine_injective : Function.Injective listingLine := by
  intro token other same
  have characters := congrArg String.toList same
  rw [toList_listingLine, toList_listingLine] at characters
  have width : (kindColumn token.kind).toList.length = (kindColumn other.kind).toList.length := by
    rw [length_kindColumn, length_kindColumn]
  obtain ⟨columns, behind⟩ := List.append_inj characters width
  have kinds : token.kind = other.kind :=
    kindColumn_injective (String.toList_injective columns)
  have values : token.value = other.value :=
    Text.quoted_injective (String.toList_injective (List.cons.inj behind).2)
  cases token
  cases other
  simp_all

theorem lineFeed_notMem_listingLine
    (token : Token) :
    '\n' ∉ (listingLine token).toList := by
  rw [toList_listingLine]
  simp [lineFeed_notMem_kindColumn, Text.lineFeed_notMem_quoted]

theorem listingLine_ne_empty
    (token : Token) :
    listingLine token ≠ "" := by
  intro empty
  have characters := congrArg (List.length ∘ String.toList) empty
  simp [toList_listingLine] at characters

/-! ## Listings -/

/-- There is one line for every token; a listing of no tokens is one empty line. -/
theorem splitLines_listing
    (tokens : List Token) :
    Text.splitLines (listing tokens) =
      if tokens = [] then [""] else tokens.map listingLine := by
  have oneLine : ∀ line ∈ tokens.map listingLine, '\n' ∉ line.toList := by
    simpa using fun token _ => lineFeed_notMem_listingLine token
  rw [listing, Text.splitLines_intercalate oneLine]
  simp only [List.map_eq_nil_iff]

/-- The empty line of an empty listing is not the line of a token. -/
theorem map_listingLine_ne
    (tokens : List Token) :
    tokens.map listingLine ≠ [""] := by
  intro same
  obtain ⟨token, _, line⟩ := List.map_eq_singleton_iff.mp same
  exact listingLine_ne_empty token line

theorem listing_injective : Function.Injective listing := by
  intro tokens others same
  have lines := congrArg Text.splitLines same
  rw [splitLines_listing, splitLines_listing] at lines
  split at lines
  · next empty =>
      split at lines
      · next othersEmpty => rw [empty, othersEmpty]
      · exact absurd lines.symm (map_listingLine_ne others)
  · split at lines
    · exact absurd lines (map_listingLine_ne tokens)
    · exact (List.map_inj_right fun _ _ line => listingLine_injective line).mp lines

/--
Token lists with the same listing are the same, and the listing of tokens has
one line for every one of them.
-/
theorem listing_faithful
    (tokens others : List Token) :
    (listing tokens = listing others ↔ tokens = others) ∧
      Text.splitLines (listing tokens) =
        if tokens = [] then [""] else tokens.map listingLine :=
  ⟨listing_injective.eq_iff, splitLines_listing tokens⟩

end Hostcall.Token
