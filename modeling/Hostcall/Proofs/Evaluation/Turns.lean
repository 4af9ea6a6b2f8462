import Hostcall.Proofs.Evaluation.Lookups
import Hostcall.Proofs.Evaluation.Rules
import Hostcall.Proofs.Tree.Parts
import Mathlib.Data.List.Chain

/-!
# The turns of a call

The links of a call take turns.  In its turn a link evaluates its arguments in
the scope of the call, finds what to call, and calls it.  The turn goes on to
the next link with what was returned, or with null if nothing was called, and
nothing else is handed on.

Since null cannot be called, the links that call something are the first ones:
once a link has found nothing to call, the links behind it, having no names of
their own, only evaluate their arguments.
-/

namespace Hostcall

namespace Host

variable {State Fault Ref : Type}

/-! ## Turns -/

/-- What one link of a call does in a scope. -/
structure Turn (host : Host State Fault Ref) (scope : Value Ref) where
  link : Link Node
  /-- The state in which the turn begins. -/
  start : State
  /-- The acts of evaluating the arguments. -/
  evaluation : Trace State Ref
  arguments : List (Value Ref)
  /-- The state behind that. -/
  evaluated : State
  callee : Value Ref
  /-- The state in which the callee is found. -/
  ready : State
  /-- The act of calling it, if it can be called. -/
  invocation : Trace State Ref
  returned : Value Ref
  finish : State
  evaluates : host.EvaluatesAll link.params scope start evaluation (.ok arguments evaluated)
  invokes : host.Invokes callee arguments ready invocation (.ok returned finish)

namespace Turn

variable {host : Host State Fault Ref} {scope : Value Ref}

/-- The acts of a turn in order; a link with a name looks it up behind its arguments. -/
def acts (turn : Turn host scope) : Trace State Ref :=
  turn.evaluation ++
    (turn.link.name.toList.map fun name => ⟨.lookup scope name, turn.evaluated⟩) ++
      turn.invocation

/-- The callee is what the name of the link stands for; without a name it is what was handed on. -/
def Finds (turn : Turn host scope) (handed : Value Ref) : Prop :=
  match turn.link.name with
  | some name => host.LooksUp scope name turn.evaluated (.ok turn.callee turn.ready)
  | none => turn.callee = handed ∧ turn.ready = turn.evaluated

/-- The next turn begins where this one ends, and is handed what this one returned. -/
def Before (turn next : Turn host scope) : Prop :=
  next.start = turn.finish ∧ next.Finds turn.returned

/-- The link calls its callee. -/
def Fires (turn : Turn host scope) : Prop :=
  ∃ ref, turn.callee = .object ref ∧ host.callable ref = true ∧
    turn.invocation = [⟨.call ref turn.arguments, turn.ready⟩]

/-- The link finds nothing that can be called, and calls nothing. -/
def Rests (turn : Turn host scope) : Prop :=
  (∀ ref, turn.callee = .object ref → host.callable ref = false) ∧ turn.invocation = [] ∧
    turn.returned = .null

theorem fires_or_rests
    (turn : Turn host scope) :
    turn.Fires ∨ turn.Rests := by
  rcases turn with ⟨link, start, evaluation, arguments, evaluated, callee, ready, invocation,
    returned, finish, evaluates, invokes⟩
  cases invokes with
  | called callable ended => exact Or.inl ⟨_, rfl, callable, rfl⟩
  | passedOver notCallable => exact Or.inr ⟨notCallable, rfl, rfl⟩

/-- A link without a name calls what it is handed. -/
theorem Before.callee_eq
    {turn next : Turn host scope}
    (before : turn.Before next)
    (unnamed : next.link.name = none) :
    next.callee = turn.returned := by
  have finds := before.2
  rw [Finds, unnamed] at finds
  exact finds.1

/-- What is handed on by a link that rests cannot be called. -/
theorem Rests.next
    {turn next : Turn host scope}
    (rests : turn.Rests)
    (before : turn.Before next)
    (unnamed : next.link.name = none) :
    next.Rests := by
  rcases next.fires_or_rests with ⟨ref, called, _⟩ | nextRests
  · rw [before.callee_eq unnamed, rests.2.2] at called
    cases called
  · exact nextRests

theorem Rests.all
    {turn : Turn host scope}
    {others : List (Turn host scope)}
    (rests : turn.Rests)
    (onward : (turn :: others).IsChain Before)
    (unnamed : ∀ other ∈ others, other.link.name = none) :
    ∀ other ∈ others, other.Rests := by
  induction others generalizing turn with
  | nil => simp
  | cons next others inductionHypothesis =>
      rcases List.isChain_cons_cons.mp onward with ⟨before, behind⟩
      rcases List.forall_mem_cons.mp unnamed with ⟨own, names⟩
      have nextRests := rests.next before own
      exact List.forall_mem_cons.mpr ⟨nextRests, inductionHypothesis nextRests behind names⟩

/-- The turns in which something is called come first. -/
theorem exists_fired
    {turns : List (Turn host scope)}
    (onward : turns.IsChain Before)
    (unnamed : ∀ turn ∈ turns.tail, turn.link.name = none) :
    ∃ fired idle, turns = fired ++ idle ∧ (∀ turn ∈ fired, turn.Fires) ∧
      ∀ turn ∈ idle, turn.Rests := by
  induction turns with
  | nil => exact ⟨[], [], rfl, by simp, by simp⟩
  | cons turn others inductionHypothesis =>
      rcases turn.fires_or_rests with fires | rests
      · have names : ∀ other ∈ others.tail, other.link.name = none := fun other member =>
          unnamed other (List.mem_of_mem_tail member)
        rcases inductionHypothesis onward.tail names with ⟨fired, idle, rfl, allFire, allRest⟩
        exact ⟨turn :: fired, idle, rfl, List.forall_mem_cons.mpr ⟨fires, allFire⟩, allRest⟩
      · refine ⟨[], turn :: others, rfl, by simp, ?_⟩
        exact List.forall_mem_cons.mpr ⟨rests, rests.all onward unnamed⟩

end Turn

/-- The turns that the links of a call take, and what they amount to. -/
structure TakesTurns
    (host : Host State Fault Ref)
    (scope : Value Ref)
    (links : List (Link Node))
    (handed : Value Ref)
    (state : State)
    (trace : Trace State Ref)
    (after : State)
    (turns : List (Turn host scope)) :
    Prop where
  links : turns.map Turn.link = links
  opening : ∀ turn ∈ turns.head?, turn.start = state ∧ turn.Finds handed
  onward : turns.IsChain Turn.Before
  closing : ∀ turn ∈ turns.getLast?, turn.finish = after
  acts : turns.flatMap Turn.acts = trace

variable {host : Host State Fault Ref} {scope : Value Ref}

theorem Returns.exists_turn
    {link : Link Node}
    {invoked returned : Value Ref}
    {state after : State}
    {trace : Trace State Ref}
    (returns : host.Returns link scope invoked state trace (.ok returned after)) :
    ∃ turn : Turn host scope, turn.link = link ∧ turn.start = state ∧ turn.Finds invoked ∧
      turn.acts = trace ∧ turn.returned = returned ∧ turn.finish = after := by
  cases returns with
  | @named name params _ _ _ _ _ _ _ _ _ _ evaluated looked invokes =>
      let turn : Turn host scope :=
        { link := ⟨some name, params⟩, evaluates := evaluated, invokes := invokes, .. }
      exact ⟨turn, rfl, rfl, looked, by simp [Turn.acts, turn], rfl, rfl⟩
  | @unnamed params _ _ _ _ _ _ _ _ evaluated invokes =>
      let turn : Turn host scope :=
        { link := ⟨none, params⟩, evaluates := evaluated, invokes := invokes, .. }
      exact ⟨turn, rfl, rfl, ⟨rfl, rfl⟩, by simp [Turn.acts, turn], rfl, rfl⟩

/-- A turn goes before turns that begin where it ends, with what it returned. -/
theorem TakesTurns.cons
    {link : Link Node}
    {others : List (Link Node)}
    {turn : Turn host scope}
    {turns : List (Turn host scope)}
    {handed : Value Ref}
    {state after : State}
    {trace : Trace State Ref}
    (takes : host.TakesTurns scope (link :: others) turn.returned turn.finish trace after turns)
    (start : turn.start = state)
    (finds : turn.Finds handed) :
    host.TakesTurns scope (turn.link :: link :: others) handed state (turn.acts ++ trace) after
      (turn :: turns) where
  links := by rw [List.map_cons, takes.links]
  opening := by
    rintro _ ⟨⟩
    exact ⟨start, finds⟩
  onward := takes.onward.cons takes.opening
  closing := by
    cases turns with
    | nil => exact absurd takes.links.symm (List.cons_ne_nil link others)
    | cons next turns =>
        rw [List.getLast?_cons_cons]
        exact takes.closing
  acts := by rw [List.flatMap_cons, takes.acts]

theorem Evaluates.exists_turns
    {first : Link Node}
    {chained : List (Link Node)}
    {invoked value : Value Ref}
    {state after : State}
    {trace : Trace State Ref}
    (evaluates : host.Evaluates (.call first chained) scope invoked state trace (.ok value after)) :
    value = .null ∧
      ∃ turns, host.TakesTurns scope (first :: chained) invoked state trace after turns := by
  induction chained generalizing first invoked state trace value with
  | nil =>
      cases evaluates with
      | call called =>
          rcases called.exists_turn with ⟨turn, rfl, rfl, finds, rfl, rfl, rfl⟩
          exact ⟨rfl, [turn], by constructor <;> simp [finds]⟩
  | cons link others inductionHypothesis =>
      cases evaluates with
      | chained called child =>
          rcases called.exists_turn with ⟨turn, rfl, rfl, finds, rfl, rfl, rfl⟩
          rcases inductionHypothesis child with ⟨_, turns, takes⟩
          exact ⟨rfl, turn :: turns, takes.cons rfl finds⟩

/-- The first turn is that of the first link. -/
theorem TakesTurns.link_eq_first
    {first : Link Node}
    {chained : List (Link Node)}
    {handed : Value Ref}
    {state after : State}
    {trace : Trace State Ref}
    {turns : List (Turn host scope)}
    {turn : Turn host scope}
    (takes : host.TakesTurns scope (first :: chained) handed state trace after turns)
    (opens : turn ∈ turns.head?) :
    turn.link = first := by
  have links := congrArg List.head? takes.links
  rw [List.head?_map, Option.mem_def.mp opens] at links
  exact Option.some.inj links

theorem TakesTurns.unnamed
    {first : Link Node}
    {chained : List (Link Node)}
    {handed : Value Ref}
    {state after : State}
    {trace : Trace State Ref}
    {turns : List (Turn host scope)}
    (takes : host.TakesTurns scope (first :: chained) handed state trace after turns)
    (unnamed : ∀ link ∈ chained, link.name = none) :
    ∀ turn ∈ turns.tail, turn.link.name = none := by
  have links : turns.tail.map Turn.link = chained := by
    rw [List.map_tail, takes.links, List.tail_cons]
  intro turn member
  exact unnamed turn.link (links ▸ List.mem_map_of_mem member)

variable (host)

/-- What an evaluation does can be derived. -/
theorem evaluates_evaluationTrace
    (node : Node)
    (scope invoked : Value Ref)
    (state : State) :
    host.Evaluates node scope invoked state (host.evaluationTrace node scope invoked state)
      (host.access.evaluate node scope invoked state) := by
  rcases host.exists_evaluates node scope invoked state with ⟨trace, outcome, derived⟩
  have same := derived.takes.outcome_unique (host.takes_evaluate node scope invoked state)
  rw [evaluationTrace, derived.takes.traceOf_eq, ← same]
  exact derived

/--
The links of a call take their turns, all of them, and what they do is all that
the call does.  The first link calls what its name stands for, every other link
what the link before it returned.  The links that call something come first,
and the call itself has no value.
-/
theorem call_fires_in_turn
    {tokens : List Token}
    {body : List Node}
    {first : Link Node}
    {chained : List (Link Node)}
    {scope invoked value : Value Ref}
    {state after : State}
    (parsed : Node.parse tokens = .ok body)
    (inside : .call first chained ∈ Node.nodesParts body)
    (completed :
      host.access.evaluate (.call first chained) scope invoked state = .ok value after) :
    value = .null ∧
      ∃ name fired idle, first.name = some name ∧
        host.TakesTurns scope (first :: chained) invoked state
          (host.evaluationTrace (.call first chained) scope invoked state) after (fired ++ idle) ∧
        (∀ turn ∈ (fired ++ idle).head?,
          host.LooksUp scope name turn.evaluated (.ok turn.callee turn.ready)) ∧
        (fired ++ idle).IsChain (fun turn next => next.callee = turn.returned) ∧
        (∀ turn ∈ fired, turn.Fires) ∧
        ∀ turn ∈ idle, turn.Rests := by
  have derived := host.evaluates_evaluationTrace (.call first chained) scope invoked state
  rw [completed] at derived
  rcases derived.exists_turns with ⟨nothing, turns, takes⟩
  obtain ⟨⟨name, named⟩, unnamed⟩ := Node.namedFirst_of_parse parsed _ inside
  have namesBehind := takes.unnamed unnamed
  rcases Turn.exists_fired takes.onward namesBehind with ⟨fired, idle, rfl, allFire, allRest⟩
  refine ⟨nothing, name, fired, idle, named, takes, ?_, ?_, allFire, allRest⟩
  · intro turn opens
    have own : turn.link.name = some name :=
      (congrArg Link.name (takes.link_eq_first opens)).trans named
    have finds := (takes.opening turn opens).2
    rw [Turn.Finds, own] at finds
    exact finds
  · exact takes.onward.imp_of_mem_tail_imp fun turn next _ behind before =>
      before.callee_eq (namesBehind next behind)

end Host

/-- A chain behind a name, with one link more than there is to call. -/
def exhausted : String := "myConsole.log(\"a\")()()(log(\"b\"))"

def exhaustedTokens : List Token :=
  [⟨.identifier, "myConsole"⟩, ⟨.property, "."⟩, ⟨.identifier, "log"⟩, ⟨.call, "("⟩,
    ⟨.string, "a"⟩, ⟨.call, ")"⟩, ⟨.call, "("⟩, ⟨.call, ")"⟩, ⟨.call, "("⟩, ⟨.call, ")"⟩,
    ⟨.call, "("⟩, ⟨.identifier, "log"⟩, ⟨.call, "("⟩, ⟨.string, "b"⟩, ⟨.call, ")"⟩, ⟨.call, ")"⟩]

def exhaustedFirst : Link Node := ⟨some "log", [.text "a"]⟩

def exhaustedChained : List (Link Node) :=
  [⟨none, []⟩, ⟨none, []⟩, ⟨none, [.call ⟨some "log", [.text "b"]⟩ []]⟩]

/-- What the four links put out; the last one calls nothing, but its argument does. -/
def exhaustedLines : List (List (Value Demo.Object)) :=
  [[.text "a"], [.text "log finished"],
    [.text "console log return function ===>> chained call"], [.text "===>> third call"],
    [.text "b"], [.text "log finished"]]

theorem call_fires_in_turn_exhausted :
    Token.tokenize exhausted = .ok exhaustedTokens ∧
      Node.parse exhaustedTokens =
        .ok [.identifier "myConsole" (.call exhaustedFirst exhaustedChained)] ∧
      noting.access.evaluate (.call exhaustedFirst exhaustedChained) (.object .console) .null
        [] = .ok .null exhaustedLines ∧
      ∃ name fired idle, exhaustedFirst.name = some name ∧
        noting.TakesTurns (.object .console) (exhaustedFirst :: exhaustedChained) .null []
          (noting.evaluationTrace (.call exhaustedFirst exhaustedChained) (.object .console)
            .null [])
          exhaustedLines (fired ++ idle) ∧
        (∀ turn ∈ (fired ++ idle).head?,
          noting.LooksUp (.object .console) name turn.evaluated
            (.ok turn.callee turn.ready)) ∧
        (fired ++ idle).IsChain (fun turn next => next.callee = turn.returned) ∧
        (∀ turn ∈ fired, turn.Fires) ∧
        ∀ turn ∈ idle, turn.Rests := by
  have parsed : Node.parse exhaustedTokens =
      .ok [.identifier "myConsole" (.call exhaustedFirst exhaustedChained)] := by
    decide +kernel
  have inside : .call exhaustedFirst exhaustedChained ∈
      Node.nodesParts [.identifier "myConsole" (.call exhaustedFirst exhaustedChained)] := by
    simp [Node.nodesParts, Node.parts]
  have completed :
      noting.access.evaluate (.call exhaustedFirst exhaustedChained) (.object .console) .null
        [] = .ok .null exhaustedLines := by
    decide +kernel
  exact ⟨by decide +kernel, parsed, completed,
    (noting.call_fires_in_turn parsed inside completed).2⟩

end Hostcall
