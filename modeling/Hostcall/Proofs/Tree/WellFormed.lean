import Hostcall.Proofs.Token.Spelling
import Hostcall.Proofs.Tree.MadeOf
import Hostcall.Source

/-!
# Well-formed trees

A tree is well formed when its names and texts can be written as tokens, when
only the first link of a call has a name, and when it holds nothing but texts,
names and calls.  Only behind a name may a node be absent.

A reader makes well-formed trees whenever its tokens are proper, and so every
statement of a source text is well formed.
-/

namespace Hostcall.Node

/-- The node can be written as source. -/
inductive WellFormed : Node → Prop where
  | text {value}
      (quotable : Token.IsQuotable value) :
      WellFormed (.text value)
  | identifier {name}
      (isName : Token.IsName name) :
      WellFormed (.identifier name .absent)
  | access {name property}
      (isName : Token.IsName name)
      (accessed : WellFormed property) :
      WellFormed (.identifier name property)
  /-- Only the first link has a name. -/
  | call {name params} {chained : List (Link Node)}
      (isName : Token.IsName name)
      (first : ∀ param ∈ params, WellFormed param)
      (unnamed : ∀ link ∈ chained, link.name = none)
      (others : ∀ link ∈ chained, ∀ param ∈ link.params, WellFormed param) :
      WellFormed (.call ⟨some name, params⟩ chained)

/-! ## Reading proper tokens -/

/-- Well-formed trees are those made of proper tokens. -/
theorem madeOf_isProper_iff
    {node : Node} :
    MadeOf Token.IsProper node ↔ WellFormed node := by
  constructor
  · intro made
    induction made with
    | text quotable => exact .text quotable
    | identifier isName => exact .identifier isName
    | access isName _ accessed => exact .access isName accessed
    | call isName _ unnamed _ first others => exact .call isName first unnamed others
  · intro wellFormed
    induction wellFormed with
    | text quotable => exact .text quotable
    | identifier isName => exact .identifier isName
    | access isName _ accessed => exact .access isName accessed
    | call isName _ unnamed _ first others => exact .call isName first unnamed others

/-- The statements of proper tokens are well formed. -/
theorem wellFormed_of_parse
    {tokens : List Token}
    {body : List Node}
    (proper : ∀ token ∈ tokens, token.IsProper)
    (parsed : parse tokens = .ok body) :
    ∀ statement ∈ body, WellFormed statement :=
  fun statement member => madeOf_isProper_iff.mp (madeOf_of_parse parsed proper statement member)

/-- The statements of a source text are well formed. -/
theorem wellFormed_of_readSource
    {source : String}
    {body : List Node}
    (read : readSource source = .ok body) :
    ∀ statement ∈ body, statement.WellFormed := by
  rcases readSource_eq_ok_iff.mp read with ⟨tokens, tokenized, parsed⟩
  exact wellFormed_of_parse (Token.isProper_of_tokenize tokenized) parsed

end Hostcall.Node
