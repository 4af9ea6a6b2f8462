import Hostcall.Proofs.Tree.Canonical
import Mathlib.Control.Monad.Basic

/-!
# The grammar of recognisable forms

The grammar generates token lists in which nothing is skipped, every access is
a dot and every parenthesis has its partner.  The reader accepts much more than
that.  What the grammar singles out are the token lists that come back
unchanged when their statements are written as source: a token that is skipped
or dropped does not come back, and neither does another delimiter.

A derivation in the grammar builds up the tree of its tokens, and a well-formed
tree has a derivation of its canonical tokens.
-/

namespace Hostcall.Grammar

mutual

/-- Any number of statements. -/
inductive Program : List Token → Prop where
  | nil : Program []
  | cons {first others}
      (statement : Statement first)
      (rest : Program others) :
      Program (first ++ others)

inductive Statement : List Token → Prop where
  | string {value} : Statement [⟨.string, value⟩]
  | chain {tokens}
      (chain : Chain tokens) :
      Statement tokens

/-- A name with accesses, the last of which may be a string or a call. -/
inductive Chain : List Token → Prop where
  | name {name} : Chain [⟨.identifier, name⟩]
  | string {name value} : Chain [⟨.identifier, name⟩, ⟨.property, "."⟩, ⟨.string, value⟩]
  | access {name tokens}
      (chain : Chain tokens) :
      Chain (⟨.identifier, name⟩ :: ⟨.property, "."⟩ :: tokens)
  | call {name first others}
      (arguments : Arguments first)
      (chained : ArgumentLists others) :
      Chain (⟨.identifier, name⟩ :: (first ++ others))

/-- Statements between parentheses. -/
inductive Arguments : List Token → Prop where
  | enclose {tokens}
      (statements : Program tokens) :
      Arguments (⟨.call, "("⟩ :: (tokens ++ [⟨.call, ")"⟩]))

/-- Any number of argument lists. -/
inductive ArgumentLists : List Token → Prop where
  | nil : ArgumentLists []
  | cons {first others}
      (arguments : Arguments first)
      (rest : ArgumentLists others) :
      ArgumentLists (first ++ others)

end

open Node

/-! ## The tree of a derivation -/

mutual

theorem Program.exists_body
    {tokens : List Token}
    (derivation : Program tokens)
    (proper : ∀ token ∈ tokens, token.IsProper) :
    ∃ body, (∀ statement ∈ body, WellFormed statement) ∧ nodesTokens body = tokens := by
  match derivation with
  | .nil => exact ⟨[], by simp, rfl⟩
  | .cons statement rest =>
      rcases List.forall_mem_append.mp proper with ⟨front, behind⟩
      rcases statement.exists_node front with ⟨node, own, rfl⟩
      rcases rest.exists_body behind with ⟨body, others, rfl⟩
      exact ⟨node :: body, List.forall_mem_cons.mpr ⟨own, others⟩, rfl⟩
termination_by structural derivation

theorem Statement.exists_node
    {tokens : List Token}
    (derivation : Statement tokens)
    (proper : ∀ token ∈ tokens, token.IsProper) :
    ∃ node, WellFormed node ∧ node.tokens = tokens := by
  match derivation with
  | .string =>
      rcases List.forall_mem_cons.mp proper with ⟨quotable, _⟩
      exact ⟨_, .text quotable, rfl⟩
  | .chain chain => exact chain.exists_node proper
termination_by structural derivation

theorem Chain.exists_node
    {tokens : List Token}
    (derivation : Chain tokens)
    (proper : ∀ token ∈ tokens, token.IsProper) :
    ∃ node, WellFormed node ∧ node.tokens = tokens := by
  match derivation with
  | .name =>
      rcases List.forall_mem_cons.mp proper with ⟨isName, _⟩
      exact ⟨_, .identifier isName, rfl⟩
  | .string =>
      rcases List.forall_mem_cons.mp proper with ⟨isName, behind⟩
      rcases List.forall_mem_cons.mp behind with ⟨_, targets⟩
      rcases List.forall_mem_cons.mp targets with ⟨quotable, _⟩
      exact ⟨_, .access isName (.text quotable), rfl⟩
  | .access chain =>
      rcases List.forall_mem_cons.mp proper with ⟨isName, behind⟩
      rcases List.forall_mem_cons.mp behind with ⟨_, targets⟩
      rcases chain.exists_node targets with ⟨property, accessed, rfl⟩
      exact ⟨_, .access isName accessed, tokens_access accessed.present _⟩
  | .call arguments chained =>
      rcases List.forall_mem_cons.mp proper with ⟨isName, behind⟩
      rcases List.forall_mem_append.mp behind with ⟨front, further⟩
      rcases arguments.exists_params front with ⟨params, own, rfl⟩
      rcases chained.exists_links further with ⟨links, unnamed, others, rfl⟩
      exact ⟨_, .call isName own unnamed others, rfl⟩
termination_by structural derivation

theorem Arguments.exists_params
    {tokens : List Token}
    (derivation : Arguments tokens)
    (proper : ∀ token ∈ tokens, token.IsProper) :
    ∃ params, (∀ param ∈ params, WellFormed param) ∧ linkTokens ⟨none, params⟩ = tokens := by
  match derivation with
  | .enclose statements =>
      rcases List.forall_mem_cons.mp proper with ⟨_, behind⟩
      rcases List.forall_mem_append.mp behind with ⟨inside, _⟩
      rcases statements.exists_body inside with ⟨params, own, rfl⟩
      exact ⟨params, own, rfl⟩
termination_by structural derivation

theorem ArgumentLists.exists_links
    {tokens : List Token}
    (derivation : ArgumentLists tokens)
    (proper : ∀ token ∈ tokens, token.IsProper) :
    ∃ links : List (Link Node), (∀ link ∈ links, link.name = none) ∧
      (∀ link ∈ links, ∀ param ∈ link.params, WellFormed param) ∧
      linksTokens links = tokens := by
  match derivation with
  | .nil => exact ⟨[], by simp, by simp, rfl⟩
  | .cons arguments rest =>
      rcases List.forall_mem_append.mp proper with ⟨front, behind⟩
      rcases arguments.exists_params front with ⟨params, own, rfl⟩
      rcases rest.exists_links behind with ⟨links, unnamed, others, rfl⟩
      exact ⟨⟨none, params⟩ :: links, List.forall_mem_cons.mpr ⟨rfl, unnamed⟩,
        List.forall_mem_cons.mpr ⟨own, others⟩, rfl⟩
termination_by structural derivation

end

/-! ## The derivation of a tree -/

theorem program_nodesTokens
    {nodes : List Node}
    (derivations : ∀ node ∈ nodes, Statement node.tokens) :
    Program (nodesTokens nodes) := by
  induction nodes with
  | nil => exact .nil
  | cons node nodes inductionHypothesis =>
      rcases List.forall_mem_cons.mp derivations with ⟨own, others⟩
      exact .cons own (inductionHypothesis others)

theorem argumentLists_linksTokens
    {links : List (Link Node)}
    (derivations : ∀ link ∈ links, ∀ param ∈ link.params, Statement param.tokens) :
    ArgumentLists (linksTokens links) := by
  induction links with
  | nil => exact .nil
  | cons link links inductionHypothesis =>
      rcases List.forall_mem_cons.mp derivations with ⟨own, others⟩
      have arguments := Arguments.enclose (program_nodesTokens own)
      rw [← linkTokens_eq] at arguments
      exact .cons arguments (inductionHypothesis others)

theorem statement_of_wellFormed
    {node : Node}
    (wellFormed : WellFormed node) :
    Statement node.tokens := by
  induction wellFormed with
  | text _ => exact .string
  | identifier _ => exact .chain .name
  | @access name property _ accessed inductionHypothesis =>
      rw [tokens_access accessed.present]
      generalize property.tokens = targets at inductionHypothesis
      cases inductionHypothesis with
      | string => exact .chain .string
      | chain chain => exact .chain (.access chain)
  | @call name params chained _ _ _ _ first others =>
      have arguments := Arguments.enclose (program_nodesTokens first)
      rw [tokens_call]
      exact .chain (.call arguments (argumentLists_linksTokens others))

/-! ## Token lists that come back -/

/--
The grammar generates exactly the token lists of source texts that can be read
and are the tokens of the canonical source of what is read.
-/
theorem program_iff_canonical
    {source : String}
    {tokens : List Token}
    (tokenized : Token.tokenize source = .ok tokens) :
    Program tokens ↔
      ∃ body text, parse tokens = .ok body ∧ bodySource body = .ok text ∧
        Token.tokenize text = .ok tokens := by
  have proper := Token.isProper_of_tokenize tokenized
  constructor
  · intro derivation
    rcases derivation.exists_body proper with ⟨body, wellFormed, rfl⟩
    rcases tokenize_bodySource wellFormed with ⟨text, found, again⟩
    exact ⟨body, text, parse_nodesTokens wellFormed, found, again⟩
  · rintro ⟨body, text, parsed, found, again⟩
    have wellFormed := wellFormed_of_parse proper parsed
    rcases tokenize_bodySource wellFormed with ⟨written, canonical, canonicalTokens⟩
    obtain rfl : text = written := Except.ok.inj (found.symm.trans canonical)
    obtain rfl : tokens = nodesTokens body := Except.ok.inj (again.symm.trans canonicalTokens)
    exact program_nodesTokens fun statement member =>
      statement_of_wellFormed (wellFormed statement member)

/-- The tokens of a call of an accessed name with a second argument list. -/
def chainedCall : List Token :=
  [⟨.identifier, "f"⟩, ⟨.call, "("⟩, ⟨.identifier, "a"⟩, ⟨.property, "."⟩, ⟨.identifier, "b"⟩,
    ⟨.call, ")"⟩, ⟨.call, "("⟩, ⟨.string, "("⟩, ⟨.call, ")"⟩]

theorem program_iff_canonical_chainedCall :
    Token.tokenize "f(a . b)(\"(\")" = .ok chainedCall ∧ Program chainedCall ∧
      ∃ body text, parse chainedCall = .ok body ∧ bodySource body = .ok text ∧
        Token.tokenize text = .ok chainedCall := by
  have tokenized : Token.tokenize "f(a . b)(\"(\")" = .ok chainedCall := by decide +kernel
  have first : Arguments [⟨.call, "("⟩, ⟨.identifier, "a"⟩, ⟨.property, "."⟩, ⟨.identifier, "b"⟩,
      ⟨.call, ")"⟩] :=
    .enclose (.cons (.chain (.access .name)) .nil)
  have second : Arguments [⟨.call, "("⟩, ⟨.string, "("⟩, ⟨.call, ")"⟩] :=
    .enclose (.cons .string .nil)
  have derivation : Program chainedCall :=
    .cons (.chain (.call first (.cons second .nil))) .nil
  exact ⟨tokenized, derivation, (program_iff_canonical tokenized).mp derivation⟩

end Hostcall.Grammar
