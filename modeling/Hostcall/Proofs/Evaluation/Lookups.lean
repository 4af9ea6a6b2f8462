import Hostcall.Demo
import Hostcall.Proofs.Evaluation.Account
import Hostcall.Proofs.Tree.Thinning

/-!
# Which names are looked up

The host has no say in which names a program looks up, nor in their order.
Whatever it holds, returns or declines to be called, the names are those of the
schedule, and only an error of the host cuts them short.

Of a source text the schedule takes every name once.  It is no more than a
rearrangement of the names in the text: the name of a call is looked up behind
its arguments.
-/

namespace Hostcall

/-- The name that a token holds. -/
def Token.name? (token : Token) : Option String :=
  match token.kind with
  | .identifier => some token.value
  | _ => none

theorem Token.filterMap_isWord
    (tokens : List Token) :
    (tokens.filter Token.isWord).filterMap Token.name? = tokens.filterMap Token.name? := by
  induction tokens with
  | nil => rfl
  | cons token others inductionHypothesis =>
      rcases token with ⟨kind, value⟩
      cases kind <;> simp [Token.isWord, Token.name?, List.filterMap_cons, inductionHypothesis]

namespace Node

/-! ## The schedule of a source text -/

theorem nodesSchedule_perm
    {nodes : List Node}
    (each : ∀ node ∈ nodes, node.schedule.Perm (node.words.filterMap Token.name?)) :
    (nodesSchedule nodes).Perm ((nodesWords nodes).filterMap Token.name?) := by
  induction nodes with
  | nil => exact .nil
  | cons node others inductionHypothesis =>
      rcases List.forall_mem_cons.mp each with ⟨own, behind⟩
      rw [nodesSchedule, nodesWords, List.filterMap_append]
      exact own.append (inductionHypothesis behind)

/-- A link looks its own name up last, and is written with it first. -/
theorem linkSchedule_perm
    {link : Link Node}
    (each : ∀ param ∈ link.params, param.schedule.Perm (param.words.filterMap Token.name?)) :
    (linkSchedule link).Perm ((linkWords link).filterMap Token.name?) := by
  rcases link with ⟨name, params⟩
  have named : (name.toList.map (Token.mk .identifier)).filterMap Token.name? = name.toList := by
    cases name <;> rfl
  rw [linkSchedule, linkWords, List.filterMap_append, named]
  exact List.perm_append_comm.trans ((nodesSchedule_perm each).append_left name.toList)

theorem linksSchedule_perm
    {links : List (Link Node)}
    (each : ∀ link ∈ links, ∀ param ∈ link.params,
      param.schedule.Perm (param.words.filterMap Token.name?)) :
    (linksSchedule links).Perm ((linksWords links).filterMap Token.name?) := by
  induction links with
  | nil => exact .nil
  | cons link others inductionHypothesis =>
      rcases List.forall_mem_cons.mp each with ⟨own, behind⟩
      rw [linksSchedule, linksWords, List.filterMap_append]
      exact (linkSchedule_perm own).append (inductionHypothesis behind)

/-- A well-formed node looks up the names among its words, each as often as it is written. -/
theorem WellFormed.schedule_perm
    {node : Node}
    (wellFormed : WellFormed node) :
    node.schedule.Perm (node.words.filterMap Token.name?) := by
  induction wellFormed with
  | text _ => exact .nil
  | identifier _ => exact .refl _
  | access _ _ inductionHypothesis => exact inductionHypothesis.cons _
  | @call name params chained _ _ _ _ first others =>
      rw [schedule, words, List.filterMap_append]
      exact (@linkSchedule_perm ⟨some name, params⟩ first).append
        (linksSchedule_perm others)

/-- What is read from a text has the names and strings of the text as its words. -/
theorem nodesWords_of_parse
    {tokens : List Token}
    {body : List Node}
    (proper : ∀ token ∈ tokens, token.IsProper)
    (parsed : parse tokens = .ok body) :
    nodesWords body = tokens.filter Token.isWord := by
  have wellFormed := wellFormed_of_parse proper parsed
  rw [nodesWords_eq_filter fun statement member => (wellFormed statement member).words_eq_filter]
  exact (parse_eq_ok_iff.mp parsed).thinned.filter_isWord

theorem nodesSchedule_perm_of_parse
    {tokens : List Token}
    {body : List Node}
    (proper : ∀ token ∈ tokens, token.IsProper)
    (parsed : parse tokens = .ok body) :
    (nodesSchedule body).Perm (tokens.filterMap Token.name?) := by
  have wellFormed := wellFormed_of_parse proper parsed
  rw [← Token.filterMap_isWord, ← nodesWords_of_parse proper parsed]
  exact nodesSchedule_perm fun statement member => (wellFormed statement member).schedule_perm

end Node

/-! ## The names of a trace -/

variable {State Fault Ref : Type}

namespace Host

/--
On every host a program looks up the names of its schedule, in this order, as
far as no error ends it.  If a source text runs to its end, every name in the
text has been looked up once.
-/
theorem names_scheduled
    (host : Host State Fault Ref)
    (scope : Value Ref)
    (state : State) :
    (∀ body,
      match host.access.execute body scope state with
      | .ok _ _ => (host.executionTrace body scope state).names = Node.nodesSchedule body
      | .error _ _ =>
          (host.executionTrace body scope state).names <+: Node.nodesSchedule body) ∧
    ∀ source tokens after,
      Token.tokenize source = .ok tokens →
        host.access.run scope source state = .ok () after →
          (host.runTrace scope source state).names.Perm (tokens.filterMap Token.name?) := by
  constructor
  · intro body
    have explains := host.explains_execute body scope state
    cases ended : host.access.execute body scope state with
    | ok content after => exact (ended ▸ explains).names_eq
    | error fault after => exact (ended ▸ explains).names_begin
  · intro source tokens after tokenized completed
    rcases Access.run_eq_ok_iff.mp completed with ⟨body, read, executed⟩
    obtain ⟨tokens', tokenized', parsed⟩ := readSource_eq_ok_iff.mp read
    obtain rfl := Except.ok.inj (tokenized.symm.trans tokenized')
    have explains := host.explains_execute body scope state
    rw [executed] at explains
    rw [runTrace_of_ok read, explains.names_eq]
    exact Node.nodesSchedule_perm_of_parse (Token.isProper_of_tokenize tokenized) parsed

end Host

/-- The demonstration host, which here keeps the lines that are put out. -/
def noting : Host (List (List (Value Demo.Object))) Demo.UnwantedArguments Demo.Object :=
  Demo.host fun line lines => lines ++ [line]

def deferred : String := "myConsole.log(globalValue)()() testLog(missing(x.y) \"s\")"

def deferredTokens : List Token :=
  [⟨.identifier, "myConsole"⟩, ⟨.property, "."⟩, ⟨.identifier, "log"⟩, ⟨.call, "("⟩,
    ⟨.identifier, "globalValue"⟩, ⟨.call, ")"⟩, ⟨.call, "("⟩, ⟨.call, ")"⟩, ⟨.call, "("⟩,
    ⟨.call, ")"⟩, ⟨.identifier, "testLog"⟩, ⟨.call, "("⟩, ⟨.identifier, "missing"⟩, ⟨.call, "("⟩,
    ⟨.identifier, "x"⟩, ⟨.property, "."⟩, ⟨.identifier, "y"⟩, ⟨.call, ")"⟩, ⟨.string, "s"⟩,
    ⟨.call, ")"⟩]

theorem names_scheduled_deferred :
    Token.tokenize deferred = .ok deferredTokens ∧
      ∃ after, noting.access.run Demo.scope deferred [] = .ok () after ∧
        (noting.runTrace Demo.scope deferred []).names.Perm
          (deferredTokens.filterMap Token.name?) := by
  have tokenized : Token.tokenize deferred = .ok deferredTokens := by decide +kernel
  have completed : noting.access.run Demo.scope deferred [] =
      .ok () [[.null], [.text "log finished"],
        [.text "console log return function ===>> chained call"], [.text "===>> third call"],
        [.null, .text "s"]] := by
    decide +kernel
  exact ⟨tokenized, _, completed,
    (noting.names_scheduled Demo.scope []).2 deferred deferredTokens _ tokenized completed⟩

end Hostcall
