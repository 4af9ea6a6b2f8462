import Hostcall.Proofs.Tree.WellFormed
import Hostcall.Tree.Source

/-!
# Canonical tokens

The canonical tokens of a tree are what its source says, without regard to
characters: a dot for every access and a pair of parentheses for every argument
list.  They split the way from a tree to its source and back in two.  The
source of a well-formed tree spells its canonical tokens, and these are read
back as the same tree.

Together with what the reader makes of proper tokens this says that the trees
of source texts are exactly the well-formed trees.
-/

namespace Hostcall.Node

/-! ## The tokens of a tree -/

mutual

/-- The canonical tokens of a node; something that is no node has none. -/
def tokens : Node → List Token
  | .text value => [⟨.string, value⟩]
  | .identifier name .absent => [⟨.identifier, name⟩]
  | .identifier name property => ⟨.identifier, name⟩ :: ⟨.property, "."⟩ :: tokens property
  | .call first chained =>
      first.name.toList.map (Token.mk .identifier) ++ (linkTokens first ++ linksTokens chained)
  | .program body => nodesTokens body
  | .absent => []
  | .foreign _ => []

/-- The canonical tokens of some nodes. -/
def nodesTokens : List Node → List Token
  | [] => []
  | node :: others => tokens node ++ nodesTokens others

/-- The canonical tokens of an argument list. -/
def linkTokens : Link Node → List Token
  | ⟨_, params⟩ => ⟨.call, "("⟩ :: (nodesTokens params ++ [⟨.call, ")"⟩])

/-- The canonical tokens of some argument lists. -/
def linksTokens : List (Link Node) → List Token
  | [] => []
  | link :: others => linkTokens link ++ linksTokens others

end

theorem nodesTokens_append
    (nodes others : List Node) :
    nodesTokens (nodes ++ others) = nodesTokens nodes ++ nodesTokens others := by
  induction nodes with
  | nil => rfl
  | cons node nodes inductionHypothesis =>
      simp only [List.cons_append, nodesTokens, inductionHypothesis, List.append_assoc]

theorem tokens_access
    {property : Node}
    (present : property ≠ .absent)
    (name : String) :
    tokens (.identifier name property) =
      ⟨.identifier, name⟩ :: ⟨.property, "."⟩ :: tokens property := by
  rw [tokens]
  exact present

theorem tokens_call
    (name : String)
    (params : List Node)
    (chained : List (Link Node)) :
    tokens (.call ⟨some name, params⟩ chained) =
      ⟨.identifier, name⟩ :: (linkTokens ⟨some name, params⟩ ++ linksTokens chained) :=
  rfl

theorem linkTokens_eq
    (link : Link Node) :
    linkTokens link = ⟨.call, "("⟩ :: (nodesTokens link.params ++ [⟨.call, ")"⟩]) := by
  cases link
  rfl

theorem source_access
    {property : Node}
    {accessed : String}
    (present : property ≠ .absent)
    (found : source property = .ok accessed)
    (name : String) :
    source (.identifier name property) = .ok (name ++ "." ++ accessed) := by
  rw [source, found]
  exact present

theorem WellFormed.present
    {node : Node}
    (wellFormed : WellFormed node) :
    node ≠ .absent := by
  rintro rfl
  cases wellFormed

/-! ## The source spells the tokens -/

/-- The text spells the tokens in front of any spelling that does not prolong its last name. -/
def Spells (text : String) (tokens : List Token) : Prop :=
  ∀ after others, Token.EndsName after → Token.Spelling after others →
    Token.Spelling (text.toList ++ after) (tokens ++ others)

/-- The node has a source, which spells its canonical tokens. -/
def IsSpelled (node : Node) : Prop :=
  ∃ text, node.source = .ok text ∧ Spells text node.tokens

theorem spells_empty : Spells "" [] := by
  intro after others _ rest
  simpa using rest

/-- A space keeps two spellings apart. -/
theorem Spells.space
    {first second : String}
    {tokens others : List Token}
    (front : Spells first tokens)
    (behind : Spells second others) :
    Spells (first ++ " " ++ second) (tokens ++ others) := by
  intro after rest ends spelling
  have spaced : Token.Spelling (' ' :: (second.toList ++ after)) (others ++ rest) :=
    .inert (by decide) (behind after rest ends spelling)
  simpa using front _ _ (by simp [Text.isLetter]) spaced

/-- Parentheses keep what they enclose apart from what follows. -/
theorem Spells.parenthesized
    {text rest : String}
    {tokens others : List Token}
    (inside : Spells text tokens)
    (behind : Spells rest others) :
    Spells ("(" ++ text ++ ")" ++ rest)
      (⟨.call, "("⟩ :: (tokens ++ [⟨.call, ")"⟩]) ++ others) := by
  intro after further ends spelling
  have closed : Token.Spelling (')' :: (rest.toList ++ after))
      (⟨.call, ")"⟩ :: (others ++ further)) :=
    .parenthesis (by decide) (behind after further ends spelling)
  have opened : Token.Spelling ('(' :: (text.toList ++ ')' :: (rest.toList ++ after)))
      (⟨.call, "("⟩ :: (tokens ++ ⟨.call, ")"⟩ :: (others ++ further))) :=
    .parenthesis (by decide) (inside _ _ (by simp [Text.isLetter]) closed)
  simpa using opened

/-- A name is kept apart from what begins with no letter. -/
theorem Spells.named
    {name text : String}
    {tokens : List Token}
    (isName : Token.IsName name)
    (apart : Token.EndsName text.toList)
    (behind : Spells text tokens) :
    Spells (name ++ text) (⟨.identifier, name⟩ :: tokens) := by
  intro after others ends spelling
  have named : Token.Spelling (name.toList ++ (text.toList ++ after))
      (⟨.identifier, name⟩ :: (tokens ++ others)) :=
    .cons_name isName (apart.append ends) (behind after others ends spelling)
  simpa using named

theorem Spells.dotted
    {text : String}
    {tokens : List Token}
    (behind : Spells text tokens) :
    Spells ("." ++ text) (⟨.property, "."⟩ :: tokens) := by
  intro after others ends spelling
  have dotted : Token.Spelling ('.' :: (text.toList ++ after))
      (⟨.property, "."⟩ :: (tokens ++ others)) :=
    .delimiter (by decide) (behind after others ends spelling)
  simpa using dotted

theorem spells_quoted
    {value : String}
    (quotable : Token.IsQuotable value) :
    Spells ("\"" ++ value ++ "\"") [⟨.string, value⟩] := by
  intro after others _ spelling
  simpa using Token.Spelling.cons_string quotable spelling

/-- Nodes are spelled with a space between any two of them. -/
theorem sources_spelled
    {nodes : List Node}
    (spelled : ∀ node ∈ nodes, IsSpelled node) :
    ∃ texts, sources nodes = .ok texts ∧ texts.length = nodes.length ∧
      Spells (" ".intercalate texts) (nodesTokens nodes) := by
  induction nodes with
  | nil => exact ⟨[], rfl, rfl, spells_empty⟩
  | cons node nodes inductionHypothesis =>
      rcases List.forall_mem_cons.mp spelled with ⟨own, others⟩
      rcases own with ⟨text, found, spells⟩
      rcases inductionHypothesis others with ⟨texts, foundAll, counted, spellsAll⟩
      refine ⟨text :: texts, by simp only [sources, found, foundAll], by simp [counted], ?_⟩
      match texts, nodes, counted with
      | [], [], _ => simpa [nodesTokens] using spells
      | second :: texts, _ :: _, _ =>
          rw [String.intercalate_cons_cons]
          exact spells.space spellsAll

theorem linkSource_spelled
    {link : Link Node}
    (spelled : ∀ param ∈ link.params, IsSpelled param) :
    ∃ arguments, linkSource link = .ok ("(" ++ arguments ++ ")") ∧
      Spells arguments (nodesTokens link.params) := by
  rcases link with ⟨name, params⟩
  rcases sources_spelled spelled with ⟨texts, found, _, spells⟩
  exact ⟨_, by simp only [linkSource, found], spells⟩

/-- Argument lists are spelled by what can follow on a name. -/
theorem linksSource_spelled
    {links : List (Link Node)}
    (spelled : ∀ link ∈ links, ∀ param ∈ link.params, IsSpelled param) :
    ∃ text, linksSource links = .ok text ∧ Token.EndsName text.toList ∧
      Spells text (linksTokens links) := by
  induction links with
  | nil => exact ⟨"", rfl, by simp, spells_empty⟩
  | cons link links inductionHypothesis =>
      rcases List.forall_mem_cons.mp spelled with ⟨own, others⟩
      rcases linkSource_spelled own with ⟨arguments, found, spells⟩
      rcases inductionHypothesis others with ⟨rest, foundAll, _, spellsAll⟩
      refine ⟨"(" ++ arguments ++ ")" ++ rest, by simp only [linksSource, found, foundAll],
        by simp [Text.isLetter], ?_⟩
      rcases link with ⟨name, params⟩
      exact spells.parenthesized spellsAll

/-- The source of a well-formed tree spells its canonical tokens. -/
theorem WellFormed.isSpelled
    {node : Node}
    (wellFormed : WellFormed node) :
    IsSpelled node := by
  induction wellFormed with
  | text quotable => exact ⟨_, rfl, spells_quoted quotable⟩
  | @identifier name isName =>
      have spells := Spells.named isName (by simp) spells_empty
      exact ⟨name, rfl, by simpa [tokens] using spells⟩
  | @access name property isName accessed inductionHypothesis =>
      rcases inductionHypothesis with ⟨text, found, spells⟩
      refine ⟨_, source_access accessed.present found name, ?_⟩
      rw [tokens_access accessed.present, String.append_assoc]
      exact .named isName (by simp [Text.isLetter]) spells.dotted
  | @call name params chained isName _ _ _ first others =>
      obtain ⟨arguments, found, spells⟩ :=
        @linkSource_spelled ⟨some name, params⟩ first
      rcases linksSource_spelled others with ⟨rest, foundAll, _, spellsAll⟩
      refine ⟨name ++ ("(" ++ arguments ++ ")" ++ rest), ?_, ?_⟩
      · simp only [source, found, foundAll, Option.getD_some, String.append_assoc]
      · exact .named isName (by simp [Text.isLetter]) (spells.parenthesized spellsAll)

/-- The canonical source of well-formed statements has their canonical tokens. -/
theorem tokenize_bodySource
    {body : List Node}
    (wellFormed : ∀ statement ∈ body, WellFormed statement) :
    ∃ text, bodySource body = .ok text ∧ Token.tokenize text = .ok (nodesTokens body) := by
  obtain ⟨texts, found, _, spells⟩ :=
    sources_spelled fun statement member => (wellFormed statement member).isSpelled
  refine ⟨" ".intercalate texts, by simp only [bodySource, source, found], ?_⟩
  rw [Token.tokenize_eq_ok_iff]
  simpa using spells [] [] Token.endsName_nil .nil

/-! ## The tokens are read back -/

/--
The canonical tokens of the node are read as the node, before any token that
does not go on with a name.
-/
def IsReadBack (node : Node) : Prop :=
  ∃ token taken, node.tokens = token :: taken ∧ ¬IsDelimiting token ∧
    ∀ next, EndsChain next → ReadsStatement token taken (some node) next

/-- A token that begins a statement does not go on with a name. -/
theorem endsChain_of_not_isDelimiting
    {token : Token}
    (begins : ¬IsDelimiting token) :
    EndsChain (some token) := by
  rw [endsChain_some]
  constructor
  · rintro rfl
    exact begins (Or.inl rfl)
  · intro property
    exact begins (Or.inr property)

theorem readsArguments_of_isReadBack
    {params : List Node}
    (readBack : ∀ param ∈ params, IsReadBack param) :
    ReadsArguments (nodesTokens params ++ [⟨.call, ")"⟩]) params ∧
      EndsChain (nodesTokens params ++ [Token.mk .call ")"]).head? := by
  induction params with
  | nil => exact ⟨.close, by simp [nodesTokens]⟩
  | cons param params inductionHypothesis =>
      rcases List.forall_mem_cons.mp readBack with ⟨own, others⟩
      rcases own with ⟨token, taken, canonical, begins, reads⟩
      rcases inductionHypothesis others with ⟨rest, ends⟩
      have inside : token ≠ ⟨.call, ")"⟩ := by
        rintro rfl
        exact begins (Or.inl rfl)
      have derivation := ReadsArguments.cons inside (reads _ ends) rest
      constructor
      · simpa [nodesTokens, canonical] using derivation
      · simpa [nodesTokens, canonical] using endsChain_of_not_isDelimiting begins

theorem readsLists_of_isReadBack
    {params : List Node}
    {links : List (Link Node)}
    (first : ∀ param ∈ params, IsReadBack param)
    (others : ∀ link ∈ links, ∀ param ∈ link.params, IsReadBack param)
    {next : Option Token}
    (ends : EndsChain next) :
    ReadsLists (nodesTokens params ++ ⟨.call, ")"⟩ :: linksTokens links)
      (params, links.map Link.params) next := by
  induction links generalizing params with
  | nil =>
      rcases readsArguments_of_isReadBack first with ⟨arguments, _⟩
      simpa [linksTokens] using ReadsLists.last arguments ends.1
  | cons link links inductionHypothesis =>
      rcases readsArguments_of_isReadBack first with ⟨arguments, _⟩
      rcases List.forall_mem_cons.mp others with ⟨own, further⟩
      have derivation := ReadsLists.more arguments (inductionHypothesis own further)
      rcases link with ⟨name, second⟩
      simpa [linksTokens, linkTokens] using derivation

/-- The argument lists of unnamed links make up these links again. -/
theorem map_mk_params
    {links : List (Link Node)}
    (unnamed : ∀ link ∈ links, link.name = none) :
    (links.map Link.params).map (Link.mk none) = links := by
  induction links with
  | nil => rfl
  | cons link links inductionHypothesis =>
      rcases List.forall_mem_cons.mp unnamed with ⟨own, others⟩
      rcases link with ⟨name, params⟩
      obtain rfl : name = none := own
      simp only [List.map_cons, inductionHypothesis others]

/-- The canonical tokens of a well-formed tree are read back as the tree. -/
theorem WellFormed.isReadBack
    {node : Node}
    (wellFormed : WellFormed node) :
    IsReadBack node := by
  induction wellFormed with
  | @text value _ =>
      exact ⟨⟨.string, value⟩, [], rfl, by simp [IsDelimiting], fun _ _ => .text⟩
  | @identifier name _ =>
      exact ⟨⟨.identifier, name⟩, [], rfl, by simp [IsDelimiting],
        fun _ ends => .name (.plain ends)⟩
  | @access name property _ accessed inductionHypothesis =>
      rcases inductionHypothesis with ⟨token, taken, canonical, begins, reads⟩
      refine ⟨⟨.identifier, name⟩, ⟨.property, "."⟩ :: token :: taken, ?_,
        by simp [IsDelimiting], ?_⟩
      · rw [tokens_access accessed.present, canonical]
      · intro next ends
        cases reads next ends with
        | text => exact .name .text
        | name target => exact .name (.access target)
  | @call name params chained _ _ unnamed _ first others =>
      refine ⟨⟨.identifier, name⟩,
        ⟨.call, "("⟩ :: (nodesTokens params ++ ⟨.call, ")"⟩ :: linksTokens chained),
        by simp [tokens, linkTokens], by simp [IsDelimiting], ?_⟩
      intro next ends
      have reads : ReadsName name _ _ next :=
        .call (readsLists_of_isReadBack first others ends)
      rw [Node.ofArgumentLists, map_mk_params unnamed] at reads
      exact .name reads

theorem readsStatements_of_isReadBack
    {body : List Node}
    (readBack : ∀ statement ∈ body, IsReadBack statement) :
    ReadsStatements (nodesTokens body) body ∧ EndsChain (nodesTokens body).head? := by
  induction body with
  | nil => exact ⟨.nil, by simp [nodesTokens]⟩
  | cons statement body inductionHypothesis =>
      rcases List.forall_mem_cons.mp readBack with ⟨own, others⟩
      rcases own with ⟨token, taken, canonical, begins, reads⟩
      rcases inductionHypothesis others with ⟨rest, ends⟩
      have derivation := ReadsStatements.cons (reads _ ends) rest
      constructor
      · simpa [nodesTokens, canonical] using derivation
      · simpa [nodesTokens, canonical] using endsChain_of_not_isDelimiting begins

/-- The canonical tokens of well-formed statements have exactly these statements. -/
theorem parse_nodesTokens
    {body : List Node}
    (wellFormed : ∀ statement ∈ body, WellFormed statement) :
    parse (nodesTokens body) = .ok body := by
  rw [parse_eq_ok_iff]
  have readBack := readsStatements_of_isReadBack fun statement member =>
    (wellFormed statement member).isReadBack
  exact readBack.1

/-! ## The trees of source texts -/

/--
The statements that source texts have are exactly the well-formed ones, and
their canonical source has these statements again.
-/
theorem source_image
    (body : List Node) :
    ((∃ source tokens, Token.tokenize source = .ok tokens ∧ parse tokens = .ok body) ↔
      ∀ statement ∈ body, WellFormed statement) ∧
    ((∀ statement ∈ body, WellFormed statement) →
      ∃ text tokens, bodySource body = .ok text ∧
        Token.tokenize text = .ok tokens ∧ parse tokens = .ok body) := by
  have canonical (wellFormed : ∀ statement ∈ body, WellFormed statement) :
      ∃ text tokens, bodySource body = .ok text ∧
        Token.tokenize text = .ok tokens ∧ parse tokens = .ok body := by
    rcases tokenize_bodySource wellFormed with ⟨text, found, tokenized⟩
    exact ⟨text, nodesTokens body, found, tokenized, parse_nodesTokens wellFormed⟩
  constructor
  · constructor
    · rintro ⟨source, tokens, tokenized, parsed⟩
      exact wellFormed_of_parse (Token.isProper_of_tokenize tokenized) parsed
    · intro wellFormed
      rcases canonical wellFormed with ⟨text, tokens, _, tokenized, parsed⟩
      exact ⟨text, tokens, tokenized, parsed⟩
  · exact canonical

/-- A call of an accessed call with a chain inside, and a text that looks like delimiters. -/
def nestedCalls : List Node :=
  [.call
    ⟨some "f", [.identifier "a" (.call ⟨some "g", [.text "(.["]⟩ [⟨none, [.text ""]⟩])]⟩
    [⟨none, [.identifier "b" (.identifier "c" .absent)]⟩]]

theorem source_image_nestedCalls :
    (∀ statement ∈ nestedCalls, WellFormed statement) ∧
      ∃ text tokens, bodySource nestedCalls = .ok text ∧
        Token.tokenize text = .ok tokens ∧ parse tokens = .ok nestedCalls := by
  have wellFormed : ∀ statement ∈ nestedCalls, WellFormed statement := by
    have inner : WellFormed (.call ⟨some "g", [.text "(.["]⟩ [⟨none, [.text ""]⟩]) := by
      refine .call (by decide) ?_ (by simp) ?_
      · simpa using WellFormed.text (by decide : Token.IsQuotable "(.[")
      · simpa using WellFormed.text (by decide : Token.IsQuotable "")
    have last : WellFormed (.identifier "b" (.identifier "c" .absent)) :=
      .access (by decide) (.identifier (by decide))
    intro statement member
    obtain rfl := List.mem_singleton.mp member
    refine .call (by decide) ?_ (by simp) ?_
    · simpa using WellFormed.access (by decide : Token.IsName "a") inner
    · simpa using last
  exact ⟨wellFormed, (source_image nestedCalls).2 wellFormed⟩

end Hostcall.Node
