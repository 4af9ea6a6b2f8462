import Hostcall.Proofs.Evaluation.Lookups
import Mathlib.Data.List.Basic

/-!
# One source text behind another

Two source texts that are written one behind the other are read and run as if
each stood alone, provided that nothing belongs together across the seam.  A
name must not be prolonged there, no delimiter may wait there for its target,
and the second text must not go on with the chain that the first one ends with.

The scan, the reader and the evaluator are shown one after another to keep
nothing in mind at the seam.  For the reader this rests on derivations, which
know of the tokens behind them only the first: a reading that ended with the
tokens ends as well before a token that continues no chain.
-/

namespace Hostcall

/-! ## Scanning across the seam -/

namespace Token

/-- A name at the end of the first text is not prolonged by the second one. -/
def Apart (front behind : List Char) : Prop :=
  ∀ last ∈ front.getLast?, Text.isLetter last = true → EndsName behind

/-- Only the end of the first text matters. -/
theorem Apart.of_append
    {text behind : List Char}
    (front : List Char)
    (apart : Apart (front ++ text) behind) :
    Apart text behind := by
  intro last member
  exact apart last (List.mem_getLast?_append_of_mem_getLast? member)

/-- A name that ends before the seam ends there in the joined text. -/
theorem Apart.endsName
    {first : Char}
    {others text behind : List Char}
    (apart : Apart (first :: (others ++ text)) behind)
    (letters : ∀ character ∈ first :: others, Text.isLetter character = true)
    (ends : EndsName text) :
    EndsName (text ++ behind) := by
  cases text with
  | nil =>
      have last := (first :: others).getLast?_eq_some_getLast (by simp)
      rw [List.append_nil] at apart
      exact apart _ last (letters _ (List.getLast_mem _))
  | cons character text =>
      rw [List.cons_append, endsName_cons]
      exact (endsName_cons character text).mp ends

theorem Spelling.append
    {front behind : List Char}
    {tokens others : List Token}
    (first : Spelling front tokens)
    (second : Spelling behind others)
    (apart : Apart front behind) :
    Spelling (front ++ behind) (tokens ++ others) := by
  induction first with
  | nil => exact second
  | @inert character text _ inert _ inductionHypothesis =>
      exact .inert inert (inductionHypothesis (apart.of_append [character]))
  | @parenthesis character text _ parenthesis _ inductionHypothesis =>
      exact .parenthesis parenthesis
        (inductionHypothesis (apart.of_append [character]))
  | @delimiter character text _ delimiter _ inductionHypothesis =>
      exact .delimiter delimiter
        (inductionHypothesis (apart.of_append [character]))
  | @string inside text _ quotable _ inductionHypothesis =>
      have rest : Apart text behind := by
        apply Apart.of_append ('"' :: (inside ++ ['"']))
        simpa using apart
      simpa using Spelling.string quotable (inductionHypothesis rest)
  | @name first letters text _ letter inside ends _ inductionHypothesis =>
      have rest : Apart text behind := by
        apply Apart.of_append (first :: letters)
        simpa using apart
      have stops : EndsName (text ++ behind) :=
        apart.endsName (List.forall_mem_cons.mpr ⟨letter, inside⟩) ends
      simpa using Spelling.name letter inside stops (inductionHypothesis rest)

theorem tokenize_append
    {front behind : String}
    {tokens others : List Token}
    (first : tokenize front = .ok tokens)
    (second : tokenize behind = .ok others)
    (apart : Apart front.toList behind.toList) :
    tokenize (front ++ behind) = .ok (tokens ++ others) := by
  rw [tokenize_eq_ok_iff] at first second ⊢
  rw [String.toList_append]
  exact first.append second apart

end Token

/-! ## Reading across the seam -/

namespace Node

/-- The tokens do not end with a delimiter, which would take the next one. -/
def Settled (tokens : List Token) : Prop :=
  ∀ last ∈ tokens.getLast?, last.kind ≠ .property

theorem Settled.of_append
    {tokens : List Token}
    (front : List Token)
    (settled : Settled (front ++ tokens)) :
    Settled tokens := by
  intro last member
  exact settled last (List.mem_getLast?_append_of_mem_getLast? member)

theorem ReadsStatement.followed
    {token : Token}
    {taken : List Token}
    {node : Option Node}
    {next following : Option Token}
    (reads : ReadsStatement token taken node next)
    (settled : Settled taken)
    (ends : EndsChain following) :
    ReadsStatement token taken node following := by
  rcases reads.followed_or_takes ends with followed | ⟨⟨delimiter, last⟩, _⟩
  · exact followed
  · exact absurd rfl (settled ⟨.property, delimiter⟩ last)

theorem ReadsStatements.append
    {tokens others : List Token}
    {body rest : List Node}
    (first : ReadsStatements tokens body)
    (second : ReadsStatements others rest)
    (settled : Settled tokens)
    (ends : EndsChain others.head?) :
    ReadsStatements (tokens ++ others) (body ++ rest) := by
  induction first with
  | nil => exact second
  | @cons token taken node behind body statement _ inductionHypothesis =>
      have later : Settled behind := by
        apply Settled.of_append (token :: taken)
        simpa using settled
      have next : ReadsStatement token taken node (behind ++ others).head? := by
        cases behind with
        | nil =>
            -- the last statement of the first text, now followed by the second one
            rw [List.append_nil] at settled
            exact statement.followed (settled.of_append [token]) ends
        | cons token behind => exact statement
      simpa using ReadsStatements.cons next (inductionHypothesis later)

theorem parse_append
    {tokens others : List Token}
    {body rest : List Node}
    (first : parse tokens = .ok body)
    (second : parse others = .ok rest)
    (settled : Settled tokens)
    (ends : EndsChain others.head?) :
    parse (tokens ++ others) = .ok (body ++ rest) := by
  rw [parse_eq_ok_iff] at first second ⊢
  exact first.append second settled ends

end Node

/-! ## Running across the seam -/

variable {State Fault Ref : Type}

namespace Access

theorem execute_append
    (access : Access State Fault Ref)
    (body rest : List Node)
    (scope : Value Ref) :
    access.execute (body ++ rest) scope = (do
      access.execute body scope
      access.execute rest scope) := by
  induction body with
  | nil => rfl
  | cons node others inductionHypothesis =>
      simp only [List.cons_append, execute, inductionHypothesis, bind_assoc]

end Access

theorem adaptExcept_bind
    {Fault' Content Result : Type}
    (first : EStateM Fault State Content)
    (next : Content → EStateM Fault State Result)
    (wrap : Fault → Fault') :
    (first >>= next).adaptExcept wrap =
      first.adaptExcept wrap >>= fun content => (next content).adaptExcept wrap := by
  funext state
  simp only [EStateM.adaptExcept, Bind.bind, EStateM.bind]
  cases first state <;> rfl

namespace Host

/-- The trace of further statements goes on where the statements before them have ended. -/
theorem executionTrace_append
    (host : Host State Fault Ref)
    (body rest : List Node)
    (scope : Value Ref)
    (state : State) :
    host.executionTrace (body ++ rest) scope state =
      match host.access.execute body scope state with
      | .ok _ after =>
          host.executionTrace body scope state ++ host.executionTrace rest scope after
      | .error _ _ => host.executionTrace body scope state := by
  have first := host.takes_execute body scope state
  rw [executionTrace, Access.execute_append]
  cases ended : host.access.execute body scope state with
  | ok content after =>
      rw [ended] at first
      exact (first.andThen (host.takes_execute rest scope after)).traceOf_eq
  | error fault after =>
      rw [ended] at first
      exact first.raised.traceOf_eq

/--
Two source texts with nothing belonging together at their seam have the tokens
and the statements of both when one is written behind the other.  Running them
so is running the first and then, unless it has failed, the second: it ends in
the same way and in the same state, and its trace is that of the one run
followed by that of the other.
-/
theorem source_append
    {front behind : String}
    {tokens others : List Token}
    {body rest : List Node}
    (tokenized : Token.tokenize front = .ok tokens)
    (parsed : Node.parse tokens = .ok body)
    (tokenizedBehind : Token.tokenize behind = .ok others)
    (parsedBehind : Node.parse others = .ok rest)
    (settled : Node.Settled tokens)
    (ends : Node.EndsChain others.head?)
    (apart : Token.Apart front.toList behind.toList)
    (host : Host State Fault Ref)
    (scope : Value Ref) :
    Token.tokenize (front ++ behind) = .ok (tokens ++ others) ∧
      Node.parse (tokens ++ others) = .ok (body ++ rest) ∧
      host.access.run scope (front ++ behind) = (do
        host.access.run scope front
        host.access.run scope behind) ∧
      ∀ state,
        host.runTrace scope (front ++ behind) state =
          match host.access.run scope front state with
          | .ok _ after => host.runTrace scope front state ++ host.runTrace scope behind after
          | .error _ _ => host.runTrace scope front state := by
  have joined := Token.tokenize_append tokenized tokenizedBehind apart
  have read := Node.parse_append parsed parsedBehind settled ends
  have front_ok := readSource_eq_ok_iff.mpr ⟨tokens, tokenized, parsed⟩
  have behind_ok := readSource_eq_ok_iff.mpr ⟨others, tokenizedBehind, parsedBehind⟩
  have both_ok := readSource_eq_ok_iff.mpr ⟨tokens ++ others, joined, read⟩
  refine ⟨joined, read, ?_, ?_⟩
  · rw [Access.run_of_ok both_ok, Access.run_of_ok front_ok, Access.run_of_ok behind_ok,
      Access.execute_append, adaptExcept_bind]
  · intro state
    rw [runTrace_of_ok both_ok, executionTrace_append, Access.run_of_ok front_ok,
      EStateM.adaptExcept]
    cases host.access.execute body scope state with
    | ok content after => simp only [runTrace_of_ok front_ok, runTrace_of_ok behind_ok]
    | error fault after => simp only [runTrace_of_ok front_ok]

end Host

/-- A text that ends with a delimiter and the parenthesis that it takes. -/
def swallowing : String := "testLog(a[)\"s\")x.("

def swallowingTokens : List Token :=
  [⟨.identifier, "testLog"⟩, ⟨.call, "("⟩, ⟨.identifier, "a"⟩, ⟨.property, "["⟩, ⟨.call, ")"⟩,
    ⟨.string, "s"⟩, ⟨.call, ")"⟩, ⟨.identifier, "x"⟩, ⟨.property, "."⟩, ⟨.call, "("⟩]

def swallowingBody : List Node :=
  [.call ⟨some "testLog", [.identifier "a" .absent, .text "s"]⟩ [], .identifier "x" .absent]

/-- A text that begins with a parenthesis of no list and fails in its second statement. -/
def straying : String := ")y myConsole.log()(z) y"

def strayingTokens : List Token :=
  [⟨.call, ")"⟩, ⟨.identifier, "y"⟩, ⟨.identifier, "myConsole"⟩, ⟨.property, "."⟩,
    ⟨.identifier, "log"⟩, ⟨.call, "("⟩, ⟨.call, ")"⟩, ⟨.call, "("⟩, ⟨.identifier, "z"⟩,
    ⟨.call, ")"⟩, ⟨.identifier, "y"⟩]

def strayingBody : List Node :=
  [.identifier "y" .absent,
    .identifier "myConsole" (.call ⟨some "log", []⟩ [⟨none, [.identifier "z" .absent]⟩]),
    .identifier "y" .absent]

theorem source_append_straying :
    Token.tokenize (swallowing ++ straying) = .ok (swallowingTokens ++ strayingTokens) ∧
      Node.parse (swallowingTokens ++ strayingTokens) = .ok (swallowingBody ++ strayingBody) ∧
      noting.access.run Demo.scope (swallowing ++ straying) [] =
        .error (.raised ⟨"second_call", 1⟩)
          [[.null, .text "s"], [], [.text "log finished"]] ∧
      noting.runTrace Demo.scope (swallowing ++ straying) [] =
        noting.runTrace Demo.scope swallowing [] ++
          noting.runTrace Demo.scope straying [[.null, .text "s"]] := by
  have tokenized : Token.tokenize swallowing = .ok swallowingTokens := by decide +kernel
  have parsed : Node.parse swallowingTokens = .ok swallowingBody := by decide +kernel
  have tokenizedBehind : Token.tokenize straying = .ok strayingTokens := by decide +kernel
  have parsedBehind : Node.parse strayingTokens = .ok strayingBody := by decide +kernel
  have settled : Node.Settled swallowingTokens := by
    simp [Node.Settled, swallowingTokens]
  have ends : Node.EndsChain strayingTokens.head? := by
    simp [strayingTokens]
  have apart : Token.Apart swallowing.toList straying.toList := by
    simp [Token.Apart, swallowing, Text.isLetter]
  have first : noting.access.run Demo.scope swallowing [] = .ok () [[.null, .text "s"]] := by
    decide +kernel
  have second : noting.access.run Demo.scope straying [[.null, .text "s"]] =
      .error (.raised ⟨"second_call", 1⟩) [[.null, .text "s"], [], [.text "log finished"]] := by
    decide +kernel
  obtain ⟨joined, read, runs, traces⟩ :=
    noting.source_append tokenized parsed tokenizedBehind parsedBehind settled ends apart Demo.scope
  refine ⟨joined, read, ?_, ?_⟩
  · rw [runs]
    simp only [bind, EStateM.bind, first, second]
  · rw [traces, first]

end Hostcall
