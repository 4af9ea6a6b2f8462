import Hostcall.Proofs.Tree.Derivation

/-!
# Trees made of tokens

A tree that is read from tokens is made of them.  It holds nothing but texts,
names and calls, its texts are those of strings and its names those of
identifiers among the tokens, and only the first link of a call has a name.
Only behind a name may a node be absent.

What holds of all tokens of a list therefore holds of all that a tree is made
of, whichever tokens they are.
-/

namespace Hostcall.Node

variable {Allowed : Token → Prop}

/-- The node is made of allowed tokens as a reader makes nodes of tokens. -/
inductive MadeOf (Allowed : Token → Prop) : Node → Prop where
  | text {value}
      (allowed : Allowed ⟨.string, value⟩) :
      MadeOf Allowed (.text value)
  | identifier {name}
      (allowed : Allowed ⟨.identifier, name⟩) :
      MadeOf Allowed (.identifier name .absent)
  | access {name property}
      (allowed : Allowed ⟨.identifier, name⟩)
      (accessed : MadeOf Allowed property) :
      MadeOf Allowed (.identifier name property)
  /-- Only the first link has a name. -/
  | call {name params} {chained : List (Link Node)}
      (allowed : Allowed ⟨.identifier, name⟩)
      (first : ∀ param ∈ params, MadeOf Allowed param)
      (unnamed : ∀ link ∈ chained, link.name = none)
      (others : ∀ link ∈ chained, ∀ param ∈ link.params, MadeOf Allowed param) :
      MadeOf Allowed (.call ⟨some name, params⟩ chained)

theorem MadeOf.ofArgumentLists
    {name : String}
    {lists : List Node × List (List Node)}
    (allowed : Allowed ⟨.identifier, name⟩)
    (first : ∀ param ∈ lists.1, MadeOf Allowed param)
    (others : ∀ params ∈ lists.2, ∀ param ∈ params, MadeOf Allowed param) :
    MadeOf Allowed (ofArgumentLists (some name) lists) := by
  apply MadeOf.call allowed first
  · intro link member
    rcases List.mem_map.mp member with ⟨params, _, rfl⟩
    rfl
  · intro link member
    rcases List.mem_map.mp member with ⟨params, listed, rfl⟩
    exact others params listed

/-! ## What is read is made of the tokens -/

mutual

theorem ReadsStatement.madeOf
    {token : Token}
    {taken : List Token}
    {node : Option Node}
    {next : Option Token}
    (reads : ReadsStatement token taken node next)
    (allowed : ∀ other ∈ token :: taken, Allowed other) :
    ∀ statement ∈ node.toList, MadeOf Allowed statement := by
  rcases List.forall_mem_cons.mp allowed with ⟨first, others⟩
  match reads with
  | .text => simpa using MadeOf.text first
  | .name reads => simpa using reads.madeOf first others
  | .skipped _ => simp
termination_by structural reads

theorem ReadsName.madeOf
    {name : String}
    {taken : List Token}
    {node : Node}
    {next : Option Token}
    (reads : ReadsName name taken node next)
    (named : Allowed ⟨.identifier, name⟩)
    (allowed : ∀ other ∈ taken, Allowed other) :
    MadeOf Allowed node := by
  match reads with
  | .plain _ => exact .identifier named
  | .dangling => exact .identifier named
  | .dropped _ => exact .identifier named
  | .text =>
      rcases List.forall_mem_cons.mp allowed with ⟨_, behind⟩
      rcases List.forall_mem_cons.mp behind with ⟨text, _⟩
      exact .access named (.text text)
  | .access reads =>
      rcases List.forall_mem_cons.mp allowed with ⟨_, behind⟩
      rcases List.forall_mem_cons.mp behind with ⟨target, others⟩
      exact .access named (reads.madeOf target others)
  | .call reads =>
      rcases reads.madeOf (List.forall_mem_cons.mp allowed).2 with ⟨first, others⟩
      exact .ofArgumentLists named first others
termination_by structural reads

theorem ReadsLists.madeOf
    {taken : List Token}
    {lists : List Node × List (List Node)}
    {next : Option Token}
    (reads : ReadsLists taken lists next)
    (allowed : ∀ other ∈ taken, Allowed other) :
    (∀ param ∈ lists.1, MadeOf Allowed param) ∧
      ∀ params ∈ lists.2, ∀ param ∈ params, MadeOf Allowed param := by
  match reads with
  | .last reads _ => exact ⟨reads.madeOf allowed, by simp⟩
  | .more reads others =>
      rcases List.forall_mem_append.mp allowed with ⟨front, behind⟩
      rcases others.madeOf (List.forall_mem_cons.mp behind).2 with ⟨second, chained⟩
      exact ⟨reads.madeOf front, List.forall_mem_cons.mpr ⟨second, chained⟩⟩
termination_by structural reads

theorem ReadsArguments.madeOf
    {taken : List Token}
    {params : List Node}
    (reads : ReadsArguments taken params)
    (allowed : ∀ other ∈ taken, Allowed other) :
    ∀ param ∈ params, MadeOf Allowed param := by
  match reads with
  | .close => simp
  | .cons _ statement reads =>
      rw [← List.cons_append] at allowed
      rcases List.forall_mem_append.mp allowed with ⟨front, behind⟩
      exact List.forall_mem_append.mpr ⟨statement.madeOf front, reads.madeOf behind⟩
termination_by structural reads

end

theorem ReadsStatements.madeOf
    {tokens : List Token}
    {body : List Node}
    (reads : ReadsStatements tokens body)
    (allowed : ∀ token ∈ tokens, Allowed token) :
    ∀ statement ∈ body, MadeOf Allowed statement := by
  induction reads with
  | nil => simp
  | cons statement _ inductionHypothesis =>
      rw [← List.cons_append] at allowed
      rcases List.forall_mem_append.mp allowed with ⟨front, behind⟩
      exact List.forall_mem_append.mpr ⟨statement.madeOf front, inductionHypothesis behind⟩

/-- The statements of allowed tokens are made of allowed tokens. -/
theorem madeOf_of_parse
    {tokens : List Token}
    {body : List Node}
    (parsed : parse tokens = .ok body)
    (allowed : ∀ token ∈ tokens, Allowed token) :
    ∀ statement ∈ body, MadeOf Allowed statement :=
  (parse_eq_ok_iff.mp parsed).madeOf allowed

end Hostcall.Node
