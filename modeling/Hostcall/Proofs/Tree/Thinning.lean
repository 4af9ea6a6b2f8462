import Hostcall.Proofs.Tree.Canonical
import Mathlib.Control.Monad.Basic

/-!
# Thinning

Reading a text and writing it again may lose parentheses and access delimiters,
and turns every delimiter that is left into a dot.  Nothing else happens to the
tokens: a thinning keeps every name and every string, each once and all in
their order.

The proof follows the derivation of a reading and accounts for every token that
a rule takes.
-/

namespace Hostcall

/-- A name or a string. -/
def Token.isWord (token : Token) : Bool :=
  token.kind == .identifier || token.kind == .string

namespace Node

/-! ## Thinned token lists -/

/-- Some delimiters and parentheses are deleted, and the delimiters that remain are dots. -/
inductive Thinned : List Token → List Token → Prop where
  | nil : Thinned [] []
  | keep {token tokens others}
      (kept : token.kind ≠ .property)
      (rest : Thinned tokens others) :
      Thinned (token :: tokens) (token :: others)
  | respell {delimiter tokens others}
      (rest : Thinned tokens others) :
      Thinned (⟨.property, delimiter⟩ :: tokens) (⟨.property, "."⟩ :: others)
  | delete {token tokens others}
      (delimiting : IsDelimiting token)
      (rest : Thinned tokens others) :
      Thinned (token :: tokens) others

theorem Thinned.append
    {tokens others further rest : List Token}
    (front : Thinned tokens others)
    (behind : Thinned further rest) :
    Thinned (tokens ++ further) (others ++ rest) := by
  induction front with
  | nil => exact behind
  | keep kept _ inductionHypothesis => exact .keep kept inductionHypothesis
  | respell _ inductionHypothesis => exact .respell inductionHypothesis
  | delete delimiting _ inductionHypothesis => exact .delete delimiting inductionHypothesis

/-- A thinning leaves the names and strings as they are. -/
theorem Thinned.filter_isWord
    {tokens others : List Token}
    (thinned : Thinned tokens others) :
    others.filter Token.isWord = tokens.filter Token.isWord := by
  induction thinned with
  | nil => rfl
  | keep _ _ inductionHypothesis => simp only [List.filter_cons, inductionHypothesis]
  | respell _ inductionHypothesis =>
      simpa [Token.isWord] using inductionHypothesis
  | @delete token tokens others delimiting _ inductionHypothesis =>
      have noWord : token.isWord = false := by
        rcases delimiting with call | property
        · simp [Token.isWord, call]
        · simp [Token.isWord, property]
      simpa [List.filter_cons, noWord] using inductionHypothesis

/-! ## What reading does to the tokens -/

theorem ReadsName.present
    {name : String}
    {taken : List Token}
    {node : Node}
    {next : Option Token}
    (reads : ReadsName name taken node next) :
    node ≠ .absent := by
  cases reads <;> simp [ofArgumentLists]

mutual

theorem ReadsStatement.thinned
    {token : Token}
    {taken : List Token}
    {node : Option Node}
    {next : Option Token}
    (reads : ReadsStatement token taken node next) :
    Thinned (token :: taken) (nodesTokens node.toList) := by
  match reads with
  | .text => exact .keep (by simp) .nil
  | .name reads => simpa [nodesTokens] using reads.thinned
  | .skipped delimiting => exact .delete delimiting .nil
termination_by structural reads

theorem ReadsName.thinned
    {name : String}
    {taken : List Token}
    {node : Node}
    {next : Option Token}
    (reads : ReadsName name taken node next) :
    Thinned (⟨.identifier, name⟩ :: taken) node.tokens := by
  match reads with
  | .plain _ => exact .keep (by simp) .nil
  | .dangling => exact .keep (by simp) (.delete (Or.inr rfl) .nil)
  | .dropped delimiting =>
      exact .keep (by simp) (.delete (Or.inr rfl) (.delete delimiting .nil))
  | .text => exact .keep (by simp) (.respell (.keep (by simp) .nil))
  | .access reads =>
      rw [tokens_access reads.present]
      exact .keep (by simp) (.respell reads.thinned)
  | .call reads =>
      rw [ofArgumentLists, tokens_call]
      exact .keep (by simp) reads.thinned
termination_by structural reads

theorem ReadsLists.thinned
    {taken : List Token}
    {lists : List Node × List (List Node)}
    {next : Option Token}
    (reads : ReadsLists taken lists next) :
    Thinned (⟨.call, "("⟩ :: taken)
      (linksTokens (⟨none, lists.1⟩ :: lists.2.map (Link.mk none))) := by
  match reads with
  | .last reads _ => simpa [linksTokens, linkTokens] using Thinned.keep (by simp) reads.thinned
  | .more reads others =>
      rw [List.map_cons, linksTokens]
      exact .append (.keep (by simp) reads.thinned) others.thinned
termination_by structural reads

theorem ReadsArguments.thinned
    {taken : List Token}
    {params : List Node}
    (reads : ReadsArguments taken params) :
    Thinned taken (nodesTokens params ++ [⟨.call, ")"⟩]) := by
  match reads with
  | .close => exact .keep (by simp) .nil
  | .cons _ statement reads =>
      rw [nodesTokens_append, List.append_assoc, ← List.cons_append]
      exact .append statement.thinned reads.thinned
termination_by structural reads

end

theorem ReadsStatements.thinned
    {tokens : List Token}
    {body : List Node}
    (reads : ReadsStatements tokens body) :
    Thinned tokens (nodesTokens body) := by
  induction reads with
  | nil => exact .nil
  | cons statement _ inductionHypothesis =>
      rw [nodesTokens_append, ← List.cons_append]
      exact .append statement.thinned inductionHypothesis

/-! ## The words of a tree -/

mutual

/-- The names and texts of a node, in the order in which they are written. -/
def words : Node → List Token
  | .text value => [⟨.string, value⟩]
  | .identifier name property => ⟨.identifier, name⟩ :: words property
  | .call first chained => linkWords first ++ linksWords chained
  | .program body => nodesWords body
  | .absent => []
  | .foreign _ => []

/-- The words of some nodes. -/
def nodesWords : List Node → List Token
  | [] => []
  | node :: others => words node ++ nodesWords others

/-- The words of a link: its name, if it has one, and those of its arguments. -/
def linkWords : Link Node → List Token
  | ⟨name, params⟩ => name.toList.map (Token.mk .identifier) ++ nodesWords params

/-- The words of some links. -/
def linksWords : List (Link Node) → List Token
  | [] => []
  | link :: others => linkWords link ++ linksWords others

end

theorem nodesWords_eq_filter
    {nodes : List Node}
    (each : ∀ node ∈ nodes, node.words = node.tokens.filter Token.isWord) :
    nodesWords nodes = (nodesTokens nodes).filter Token.isWord := by
  induction nodes with
  | nil => rfl
  | cons node nodes inductionHypothesis =>
      rcases List.forall_mem_cons.mp each with ⟨own, others⟩
      rw [nodesWords, nodesTokens, List.filter_append, own, inductionHypothesis others]

/-- Between the names and strings of an argument list there are only parentheses. -/
theorem linkTokens_filter
    (link : Link Node) :
    (linkTokens link).filter Token.isWord = (nodesTokens link.params).filter Token.isWord := by
  rw [linkTokens_eq]
  simp [Token.isWord]

theorem linksWords_eq_filter
    {links : List (Link Node)}
    (unnamed : ∀ link ∈ links, link.name = none)
    (each : ∀ link ∈ links, ∀ param ∈ link.params,
      param.words = param.tokens.filter Token.isWord) :
    linksWords links = (linksTokens links).filter Token.isWord := by
  induction links with
  | nil => rfl
  | cons link links inductionHypothesis =>
      rcases List.forall_mem_cons.mp unnamed with ⟨noName, othersUnnamed⟩
      rcases List.forall_mem_cons.mp each with ⟨own, others⟩
      rw [linksWords, linksTokens, List.filter_append, linkTokens_filter,
        inductionHypothesis othersUnnamed others, ← nodesWords_eq_filter own]
      rcases link with ⟨name, params⟩
      obtain rfl : name = none := noName
      rfl

/-- The words of a well-formed tree are those of its canonical tokens. -/
theorem WellFormed.words_eq_filter
    {node : Node}
    (wellFormed : WellFormed node) :
    node.words = node.tokens.filter Token.isWord := by
  induction wellFormed with
  | text _ => rfl
  | identifier _ => rfl
  | @access name property _ accessed inductionHypothesis =>
      rw [tokens_access accessed.present, words, inductionHypothesis]
      simp [Token.isWord]
  | @call name params chained _ _ unnamed _ first others =>
      rw [tokens_call, words, List.filter_cons, List.filter_append, linkTokens_filter,
        ← nodesWords_eq_filter first, ← linksWords_eq_filter unnamed others]
      rfl

/--
The canonical source of what is read from a text has a thinning of the tokens
of that text, and the words of what is read are the names and strings of the
text.
-/
theorem canonical_thinned
    {source : String}
    {tokens : List Token}
    {body : List Node}
    (tokenized : Token.tokenize source = .ok tokens)
    (parsed : parse tokens = .ok body) :
    ∃ text canonical, bodySource body = .ok text ∧ Token.tokenize text = .ok canonical ∧
      Thinned tokens canonical ∧ nodesWords body = tokens.filter Token.isWord := by
  have thinned := (parse_eq_ok_iff.mp parsed).thinned
  have wellFormed := wellFormed_of_parse (Token.isProper_of_tokenize tokenized) parsed
  rcases tokenize_bodySource wellFormed with ⟨text, found, again⟩
  refine ⟨text, nodesTokens body, found, again, thinned, ?_⟩
  rw [nodesWords_eq_filter fun statement member => (wellFormed statement member).words_eq_filter]
  exact thinned.filter_isWord

/-- The tokens of a text in which most delimiters are skipped, dropped or left at the end. -/
def strayDelimiters : List Token :=
  [⟨.call, ")"⟩, ⟨.identifier, "f"⟩, ⟨.call, "("⟩, ⟨.identifier, "a"⟩, ⟨.property, "["⟩,
    ⟨.identifier, "g"⟩, ⟨.property, "]"⟩, ⟨.call, ")"⟩, ⟨.identifier, "x"⟩, ⟨.call, ")"⟩,
    ⟨.string, "s"⟩, ⟨.identifier, "b"⟩, ⟨.property, "."⟩]

theorem canonical_thinned_strayDelimiters :
    Token.tokenize ")f(a[g]) x)\"s\"b." = .ok strayDelimiters ∧
      ∃ body, parse strayDelimiters = .ok body ∧
        ∃ text canonical, bodySource body = .ok text ∧ Token.tokenize text = .ok canonical ∧
          Thinned strayDelimiters canonical ∧
          nodesWords body = strayDelimiters.filter Token.isWord := by
  have tokenized : Token.tokenize ")f(a[g]) x)\"s\"b." = .ok strayDelimiters := by decide +kernel
  have parsed : parse strayDelimiters =
      .ok [
        .call ⟨some "f", [.identifier "a" (.identifier "g" .absent), .identifier "x" .absent]⟩ [],
        .text "s",
        .identifier "b" .absent] := by
    decide +kernel
  exact ⟨tokenized, _, parsed, canonical_thinned tokenized parsed⟩

end Node

end Hostcall
