import Hostcall.Proofs.Tree.Derivation

/-!
# Nesting

Whether tokens can be read at all is decided in one pass without building a
tree.  The pass remembers what the last token was good for and the places of
the argument lists that are still open, the innermost first.

The recursive reader agrees with the pass.  What it reads as a statement leaves
the open argument lists as they are, and what it reads as arguments closes one
of them.  Where it fails, the innermost list that is still open at the end is
the one that it complains about.
-/

namespace Hostcall.Node

/-! ## The pass -/

/-- What the last token was good for. -/
inductive Mode where
  /-- Nothing goes on behind it. -/
  | plain
  /-- A name, which can be accessed or called. -/
  | name
  /-- An access delimiter, which takes the next token. -/
  | delimiter
  /-- The end of an argument list, which another one can follow. -/
  | closed
deriving DecidableEq, Repr

/-- What the tokens so far leave open. -/
structure Nesting where
  mode : Mode
  /-- The places of the parentheses of open argument lists, the innermost first. -/
  opened : List Nat
deriving DecidableEq, Repr

namespace Nesting

/-- Nothing is open before the first token. -/
def initial : Nesting :=
  ⟨.plain, []⟩

/-- A token that goes on with nothing before it. -/
def separate (opened : List Nat) (token : Token) : Nesting :=
  if token.kind = .identifier then
    ⟨.name, opened⟩
  else if token.isCall ")" then
    match opened with
    | [] => ⟨.plain, []⟩
    | _ :: outer => ⟨.closed, outer⟩
  else
    ⟨.plain, opened⟩

/-- The token at a place. -/
def step (nesting : Nesting) (place : Nat) (token : Token) : Nesting :=
  match nesting.mode with
  | .plain => separate nesting.opened token
  | .name =>
      if token.kind = .property then ⟨.delimiter, nesting.opened⟩
      else if token.isCall "(" then ⟨.plain, place :: nesting.opened⟩
      else separate nesting.opened token
  | .delimiter =>
      if token.kind = .identifier then ⟨.name, nesting.opened⟩
      else ⟨.plain, nesting.opened⟩
  | .closed =>
      if token.isCall "(" then ⟨.plain, place :: nesting.opened⟩
      else separate nesting.opened token

/-- Tokens of which the first one is at a place. -/
def run (nesting : Nesting) (place : Nat) : List Token → Nesting
  | [] => nesting
  | token :: others => (nesting.step place token).run (place + 1) others

@[simp]
theorem run_nil
    (nesting : Nesting)
    (place : Nat) :
    nesting.run place [] = nesting :=
  rfl

@[simp]
theorem run_cons
    (nesting : Nesting)
    (place : Nat)
    (token : Token)
    (others : List Token) :
    nesting.run place (token :: others) = (nesting.step place token).run (place + 1) others :=
  rfl

theorem run_append
    (nesting : Nesting)
    (place : Nat)
    (tokens others : List Token) :
    nesting.run place (tokens ++ others) =
      (nesting.run place tokens).run (place + tokens.length) others := by
  induction tokens generalizing nesting place with
  | nil => rfl
  | cons token tokens inductionHypothesis =>
      simp only [List.cons_append, run_cons, inductionHypothesis, List.length_cons,
        Nat.add_assoc, Nat.add_comm 1]

/-- A run can be interrupted anywhere, also behind the last token. -/
theorem run_take_drop
    (nesting : Nesting)
    (place count : Nat)
    (tokens : List Token) :
    nesting.run place tokens =
      (nesting.run place (tokens.take count)).run (place + count) (tokens.drop count) := by
  induction tokens generalizing nesting place count with
  | nil => simp
  | cons token tokens inductionHypothesis =>
      cases count with
      | zero => rfl
      | succ count =>
          rw [List.take_succ_cons, List.drop_succ_cons, run_cons, run_cons,
            inductionHypothesis _ _ count, Nat.add_assoc place, Nat.add_comm 1]

/-! ## Where a statement may begin -/

/--
Before the next token these argument lists are open, and the next token goes on
with nothing before it.
-/
def Idle (nesting : Nesting) (opened : List Nat) (next : Option Token) : Prop :=
  nesting.opened = opened ∧
    ∀ token ∈ next, ∀ place, nesting.step place token = separate opened token

theorem idle_plain
    (opened : List Nat)
    (next : Option Token) :
    Idle ⟨.plain, opened⟩ opened next :=
  ⟨rfl, fun _ _ _ => rfl⟩

theorem idle_name
    {next : Option Token}
    (ends : EndsChain next)
    (opened : List Nat) :
    Idle ⟨.name, opened⟩ opened next := by
  constructor
  · rfl
  · rintro token rfl place
    rcases (endsChain_some token).mp ends with ⟨noCall, noProperty⟩
    simp [step, noCall, noProperty]

theorem idle_closed
    {next : Option Token}
    (ends : next ≠ some ⟨.call, "("⟩)
    (opened : List Nat) :
    Idle ⟨.closed, opened⟩ opened next := by
  constructor
  · rfl
  · intro token first place
    cases first
    have noCall : token ≠ ⟨.call, "("⟩ := by simpa using ends
    simp [step, noCall]

theorem idle_none
    (nesting : Nesting) :
    Idle nesting nesting.opened none :=
  ⟨rfl, by simp⟩

/-- A skipped token changes nothing, unless it closes an argument list. -/
theorem separate_of_isDelimiting
    {token : Token}
    {opened : List Nat}
    (delimiting : IsDelimiting token)
    (inside : token = ⟨.call, ")"⟩ → opened = []) :
    separate opened token = ⟨.plain, opened⟩ := by
  by_cases closing : token = ⟨.call, ")"⟩
  · rw [inside closing, closing]
    rfl
  · simp [separate, delimiting.kind_ne_identifier, closing]

@[simp]
theorem step_name_property
    (opened : List Nat)
    (place : Nat)
    (delimiter : String) :
    step ⟨.name, opened⟩ place ⟨.property, delimiter⟩ = ⟨.delimiter, opened⟩ :=
  rfl

@[simp]
theorem step_closed_opening
    (opened : List Nat)
    (place : Nat) :
    step ⟨.closed, opened⟩ place ⟨.call, "("⟩ = ⟨.plain, place :: opened⟩ :=
  rfl

/-- A delimiter takes a parenthesis or another delimiter and drops it. -/
theorem step_delimiter_of_isDelimiting
    {token : Token}
    (delimiting : IsDelimiting token)
    (opened : List Nat)
    (place : Nat) :
    step ⟨.delimiter, opened⟩ place token = ⟨.plain, opened⟩ := by
  simp [step, delimiting.kind_ne_identifier]

end Nesting

/-! ## What is read leaves nothing open -/

open Nesting

mutual

theorem ReadsStatement.idle_run
    {token : Token}
    {taken : List Token}
    {node : Option Node}
    {next : Option Token}
    (reads : ReadsStatement token taken node next)
    {nesting : Nesting}
    {opened : List Nat}
    (idle : nesting.Idle opened (some token))
    (inside : token = ⟨.call, ")"⟩ → opened = [])
    (place : Nat) :
    (nesting.run place (token :: taken)).Idle opened next := by
  rw [run_cons, idle.2 token rfl place]
  match reads with
  | .text => exact idle_plain opened next
  | .name reads => exact reads.idle_run opened (place + 1)
  | .skipped delimiting =>
      rw [separate_of_isDelimiting delimiting inside]
      exact idle_plain opened next
termination_by structural reads

theorem ReadsName.idle_run
    {name : String}
    {taken : List Token}
    {node : Node}
    {next : Option Token}
    (reads : ReadsName name taken node next)
    (opened : List Nat)
    (place : Nat) :
    (run ⟨.name, opened⟩ place taken).Idle opened next := by
  match reads with
  | .plain ends => exact idle_name ends opened
  | .dangling => exact idle_none ⟨.delimiter, opened⟩
  | .dropped delimiting =>
      rw [run_cons, run_cons, step_name_property, step_delimiter_of_isDelimiting delimiting]
      exact idle_plain opened next
  | .text => exact idle_plain opened next
  | .access reads => exact reads.idle_run opened (place + 2)
  | .call reads => exact reads.idle_run place opened (place + 1)
termination_by structural reads

theorem ReadsLists.idle_run
    {taken : List Token}
    {lists : List Node × List (List Node)}
    {next : Option Token}
    (reads : ReadsLists taken lists next)
    (opening : Nat)
    (opened : List Nat)
    (place : Nat) :
    (run ⟨.plain, opening :: opened⟩ place taken).Idle opened next := by
  match reads with
  | .last reads ends =>
      rw [reads.run_eq (idle_plain _ _) place]
      exact idle_closed ends opened
  | .more reads others =>
      rw [run_append, reads.run_eq (idle_plain _ _) place]
      exact others.idle_run _ opened _
termination_by structural reads

theorem ReadsArguments.run_eq
    {taken : List Token}
    {params : List Node}
    (reads : ReadsArguments taken params)
    {nesting : Nesting}
    {opening : Nat}
    {opened : List Nat}
    (idle : nesting.Idle (opening :: opened) taken.head?)
    (place : Nat) :
    nesting.run place taken = ⟨.closed, opened⟩ := by
  match reads with
  | .close =>
      rw [run_cons, idle.2 _ rfl place]
      rfl
  | .cons inside statement reads =>
      rw [← List.cons_append, run_append]
      have further := statement.idle_run idle (fun closing => absurd closing inside) place
      exact reads.run_eq further _
termination_by structural reads

end

theorem ReadsStatements.opened_run
    {tokens : List Token}
    {body : List Node}
    (reads : ReadsStatements tokens body)
    {nesting : Nesting}
    (idle : nesting.Idle [] tokens.head?)
    (place : Nat) :
    (nesting.run place tokens).opened = [] := by
  induction reads generalizing nesting place with
  | nil => exact idle.1
  | cons statement _ inductionHypothesis =>
      rw [← List.cons_append, run_append]
      exact inductionHypothesis (statement.idle_run idle (fun _ => rfl) place) _

/-! ## What fails to be read leaves its argument list open -/

mutual

theorem opened_of_readStatement_error
    {token : Token}
    {following : List Token}
    {failure : UnterminatedCall}
    (found : readStatement token following = .error failure)
    {nesting : Nesting}
    {opened : List Nat}
    (idle : nesting.Idle opened (some token))
    (place : Nat) :
    (nesting.run place (token :: following)).opened.head? = some (place + 1 + failure.opened) := by
  rw [run_cons, idle.2 token rfl place]
  rcases token with ⟨kind, value⟩
  cases kind with
  | string => simp at found
  | identifier =>
      rw [readStatement_identifier] at found
      cases name : readName value following with
      | error own =>
          simp only [name, Except.error.injEq] at found
          subst failure
          exact opened_of_readName_error name opened (place + 1)
      | ok read => simp [name] at found
  | call => simp at found
  | property => simp at found
termination_by (following.length, 3)

theorem opened_of_readName_error
    {name : String}
    {following : List Token}
    {failure : UnterminatedCall}
    (found : readName name following = .error failure)
    (opened : List Nat)
    (place : Nat) :
    (run ⟨.name, opened⟩ place following).opened.head? = some (place + failure.opened) := by
  by_cases ends : EndsChain following.head?
  · simp [readName_of_endsChain ends] at found
  · match following with
    | [] => simp at ends
    | ⟨.identifier, _⟩ :: _ => simp at ends
    | ⟨.string, _⟩ :: _ => simp at ends
    | ⟨.call, value⟩ :: behind =>
        obtain rfl : value = "(" := by simpa using ends
        rw [readName_opening] at found
        cases lists : readArgumentLists (⟨.call, "("⟩ :: behind) with
        | error own =>
            simp only [lists, Except.error.injEq] at found
            subst failure
            exact opened_of_readArgumentLists_error lists opened place
        | ok read => simp [lists] at found
    | [⟨.property, _⟩] => simp at found
    | ⟨.property, _⟩ :: ⟨.identifier, target⟩ :: others =>
        rw [readName_identifier] at found
        cases property : readName target others with
        | error own =>
            simp only [property, Except.error.injEq] at found
            subst failure
            rw [UnterminatedCall.shift, ← Nat.add_assoc]
            exact opened_of_readName_error property opened (place + 2)
        | ok read => simp [property] at found
    | ⟨.property, _⟩ :: ⟨.string, _⟩ :: _ => simp at found
    | ⟨.property, _⟩ :: ⟨.call, _⟩ :: _ =>
        rw [readName_of_isDelimiting (Or.inl rfl)] at found
        cases found
    | ⟨.property, _⟩ :: ⟨.property, _⟩ :: _ =>
        rw [readName_of_isDelimiting (Or.inr rfl)] at found
        cases found
termination_by (following.length, 2)

theorem opened_of_readArgumentLists_error
    {opening : Token}
    {tokens : List Token}
    {failure : UnterminatedCall}
    (found : readArgumentLists (opening :: tokens) = .error failure)
    (opened : List Nat)
    (place : Nat) :
    (run ⟨.plain, place :: opened⟩ (place + 1) tokens).opened.head? =
      some (place + failure.opened) := by
  cases arguments : readArguments 1 tokens with
  | error own =>
      rw [readArgumentLists_of_error arguments] at found
      cases found
      exact opened_of_readArguments_error arguments (idle_plain _ _)
  | ok first =>
      by_cases more : (tokens.drop first.taken).head? = some ⟨.call, "("⟩
      · obtain ⟨others, next⟩ := List.head?_eq_some_iff.mp more
        rw [readArgumentLists_of_more arguments next] at found
        cases lists : readArgumentLists (⟨.call, "("⟩ :: others) with
        | ok read => simp [lists] at found
        | error own =>
            simp only [lists, Except.error.injEq] at found
            subst failure
            have shorter : others.length < tokens.length := by
              have length := congrArg List.length next
              simp only [List.length_drop, List.length_cons] at length
              omega
            have closed := (reads_of_readArguments arguments).run_eq
              (idle_plain (place :: opened) _) (place + 1)
            have chained := opened_of_readArgumentLists_error lists opened
              (place + 1 + first.taken)
            rw [run_take_drop _ _ first.taken, closed, next, run_cons, step_closed_opening,
              chained, UnterminatedCall.shift]
            simp only [Nat.add_assoc]
      · rw [readArgumentLists_of_last arguments more] at found
        cases found
termination_by (tokens.length + 1, 1)

theorem opened_of_readArguments_error
    {distance : Nat}
    {tokens : List Token}
    {failure : UnterminatedCall}
    (found : readArguments distance tokens = .error failure)
    {nesting : Nesting}
    {opening : Nat}
    {opened : List Nat}
    (idle : nesting.Idle (opening :: opened) tokens.head?) :
    (nesting.run (opening + distance) tokens).opened.head? = some (opening + failure.opened) := by
  match tokens with
  | [] =>
      rw [readArguments_nil] at found
      cases found
      simp [idle.1]
  | token :: following =>
      by_cases closing : token = ⟨.call, ")"⟩
      · simp [closing] at found
      · rw [readArguments_of_inside closing] at found
        cases statement : readStatement token following with
        | error own =>
            simp only [statement, Except.error.injEq] at found
            subst failure
            rw [opened_of_readStatement_error statement idle, UnterminatedCall.shift]
            simp only [Nat.add_assoc]
        | ok first =>
            cases arguments : readArguments (distance + 1 + first.taken)
                (following.drop first.taken) with
            | ok read => simp [statement, arguments] at found
            | error own =>
                simp only [statement, arguments, Except.error.injEq] at found
                subst failure
                have further := (reads_of_readStatement statement).idle_run idle
                  (fun same => absurd same closing) (opening + distance)
                have rest := opened_of_readArguments_error arguments further
                rw [run_take_drop _ _ (first.taken + 1), List.take_succ_cons,
                  List.drop_succ_cons, ← rest]
                simp only [Nat.add_assoc, Nat.add_comm 1]
termination_by (tokens.length, 0)

end

theorem opened_of_readStatements_error
    {tokens : List Token}
    {failure : UnterminatedCall}
    (found : readStatements tokens = .error failure)
    {nesting : Nesting}
    (idle : nesting.Idle [] tokens.head?)
    (place : Nat) :
    (nesting.run place tokens).opened.head? = some (place + failure.opened) := by
  match tokens with
  | [] => simp [readStatements] at found
  | token :: following =>
      rw [readStatements] at found
      cases statement : readStatement token following with
      | error own =>
          simp only [statement, Except.error.injEq] at found
          subst failure
          rw [opened_of_readStatement_error statement idle place, UnterminatedCall.shift,
            Nat.add_assoc]
      | ok first =>
          cases statements : readStatements (following.drop first.taken) with
          | ok read => simp [statement, statements] at found
          | error own =>
              simp only [statement, statements, Except.error.injEq] at found
              subst failure
              have further := (reads_of_readStatement statement).idle_run idle
                (fun _ => rfl) place
              rw [run_take_drop _ _ (first.taken + 1), List.take_succ_cons, List.drop_succ_cons,
                opened_of_readStatements_error statements further, UnterminatedCall.shift]
              simp only [Nat.add_assoc, Nat.add_comm 1, Nat.add_left_comm]
termination_by tokens.length

/-! ## The pass decides the reading -/

/-- What a token list leaves open. -/
def nesting (tokens : List Token) : Nesting :=
  Nesting.initial.run 0 tokens

/--
A token list can be read exactly when no argument list is open at its end, and
otherwise the reader complains about the innermost one that is.
-/
theorem parse_iff_nesting
    (tokens : List Token) :
    ((∃ body, parse tokens = .ok body) ↔ (nesting tokens).opened = []) ∧
      ∀ place, (∃ reached, parse tokens = .error ⟨place, reached⟩) ↔
        (nesting tokens).opened.head? = some place := by
  have idle := idle_plain [] tokens.head?
  cases found : readStatements tokens with
  | ok read =>
      have closed : (nesting tokens).opened = [] :=
        (reads_of_readStatements found).opened_run idle 0
      simp [parse, found, closed]
  | error failure =>
      have innermost : (nesting tokens).opened.head? = some (0 + failure.opened) :=
        opened_of_readStatements_error found idle 0
      rcases List.head?_eq_some_iff.mp innermost with ⟨outer, opened⟩
      rcases failure with ⟨place, reached⟩
      simp [parse, found, opened]

end Hostcall.Node
