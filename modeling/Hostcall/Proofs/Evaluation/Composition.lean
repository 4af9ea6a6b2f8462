import Hostcall.Evaluation

/-!
# What evaluation is made of

Evaluation is put together from lookups and calls by doing one after another,
and it is settled beforehand which names are looked up and in which order: the
schedule of a tree does not depend on the host.

So whatever holds of lookups and calls, and is kept when computations follow
each other, holds of every evaluation.  The induction over trees is done here
once, for relations between the computations of two accesses that may count
the names looked up.
-/

namespace Hostcall

/-! ## Schedules -/

namespace Node

mutual

/-- The names that evaluating a node looks up, in order. -/
def schedule : Node → List String
  | .text _ => []
  | .identifier name property => name :: schedule property
  | .call first chained => linkSchedule first ++ linksSchedule chained
  | .program _ => []
  | .absent => []
  | .foreign _ => []

def nodesSchedule : List Node → List String
  | [] => []
  | node :: others => schedule node ++ nodesSchedule others

/-- The names that a link looks up: first those of its arguments, then its own. -/
def linkSchedule : Link Node → List String
  | ⟨name, params⟩ => nodesSchedule params ++ name.toList

def linksSchedule : List (Link Node) → List String
  | [] => []
  | link :: others => linkSchedule link ++ linksSchedule others

end

end Node

/-! ## Relations that evaluation keeps -/

variable {State State' Fault Fault' Ref : Type}

/--
A relation between the computations of two accesses, given the names that are
looked up: it holds of lookups and calls, and sequencing keeps it.
-/
structure Composes
    (Related : {Content : Type} → List String →
      EStateM Fault State Content → EStateM Fault' State' Content → Prop)
    (access : Access State Fault Ref)
    (access' : Access State' Fault' Ref) :
    Prop where
  pure {Content : Type} (content : Content) :
    Related [] (pure content) (pure content)
  bind {Content Result : Type}
      {names others : List String}
      {first : EStateM Fault State Content}
      {first' : EStateM Fault' State' Content}
      {next : Content → EStateM Fault State Result}
      {next' : Content → EStateM Fault' State' Result}
      (before : Related names first first')
      (after : ∀ content, Related others (next content) (next' content)) :
    Related (names ++ others) (first >>= next) (first' >>= next')
  lookup (container : Value Ref) (name : String) :
    Related [name] (access.lookup container name) (access'.lookup container name)
  invoke (callee : Value Ref) (arguments : List (Value Ref)) :
    Related [] (access.invoke callee arguments) (access'.invoke callee arguments)

namespace Composes

variable
  {Related : {Content : Type} → List String →
    EStateM Fault State Content → EStateM Fault' State' Content → Prop}
  {access : Access State Fault Ref}
  {access' : Access State' Fault' Ref}

/-- The value of the last computation may be put aside. -/
theorem andPure
    (composes : Composes Related access access')
    {Content Result : Type}
    {names : List String}
    {first : EStateM Fault State Content}
    {first' : EStateM Fault' State' Content}
    (before : Related names first first')
    (result : Content → Result) :
    Related names
      (first >>= fun content => Pure.pure (result content))
      (first' >>= fun content => Pure.pure (result content)) := by
  have bound := composes.bind before fun content => composes.pure (result content)
  rwa [List.append_nil] at bound

mutual

theorem evaluate
    (composes : Composes Related access access')
    (node : Node)
    (scope invoked : Value Ref) :
    Related node.schedule
      (access.evaluate node scope invoked)
      (access'.evaluate node scope invoked) := by
  cases node with
  | text value =>
      simp only [Access.evaluate]
      exact composes.pure _
  | identifier name property =>
      by_cases absent : property = .absent
      · subst absent
        rw [Access.evaluate_name, Access.evaluate_name]
        exact composes.lookup scope name
      · rw [Access.evaluate_access absent, Access.evaluate_access absent]
        exact composes.bind (composes.lookup scope name) fun found =>
          composes.evaluate property found .null
  | call first chained =>
      simp only [Access.evaluate]
      refine composes.bind (composes.evaluateLink first scope invoked) fun returned => ?_
      exact composes.andPure (composes.evaluateLinks chained scope returned) fun _ => Value.null
  | program | absent | foreign =>
      simp only [Access.evaluate]
      exact composes.pure _

theorem evaluateAll
    (composes : Composes Related access access')
    (nodes : List Node)
    (scope : Value Ref) :
    Related (Node.nodesSchedule nodes)
      (access.evaluateAll nodes scope)
      (access'.evaluateAll nodes scope) := by
  cases nodes with
  | nil =>
      simp only [Access.evaluateAll]
      exact composes.pure _
  | cons node others =>
      simp only [Access.evaluateAll]
      refine composes.bind (composes.evaluate node scope .null) fun value => ?_
      exact composes.andPure (composes.evaluateAll others scope) (value :: ·)

theorem evaluateLink
    (composes : Composes Related access access')
    (link : Link Node)
    (scope invoked : Value Ref) :
    Related (Node.linkSchedule link)
      (access.evaluateLink link scope invoked)
      (access'.evaluateLink link scope invoked) := by
  cases link with
  | mk name params =>
      rw [Access.evaluateLink, Access.evaluateLink]
      refine composes.bind (composes.evaluateAll params scope) fun arguments => ?_
      have called (callee : Value Ref) := composes.invoke callee arguments
      cases name with
      | none => simpa using composes.bind (composes.pure invoked) called
      | some name => simpa using composes.bind (composes.lookup scope name) called

theorem evaluateLinks
    (composes : Composes Related access access')
    (links : List (Link Node))
    (scope invoked : Value Ref) :
    Related (Node.linksSchedule links)
      (access.evaluateLinks links scope invoked)
      (access'.evaluateLinks links scope invoked) := by
  cases links with
  | nil =>
      simp only [Access.evaluateLinks]
      exact composes.pure _
  | cons link others =>
      simp only [Access.evaluateLinks]
      refine composes.bind (composes.evaluateLink link scope invoked) fun returned => ?_
      exact composes.evaluateLinks others scope returned

end

theorem execute
    (composes : Composes Related access access')
    (body : List Node)
    (scope : Value Ref) :
    Related (Node.nodesSchedule body)
      (access.execute body scope)
      (access'.execute body scope) := by
  induction body with
  | nil => exact composes.pure _
  | cons node others inductionHypothesis =>
      exact composes.bind (composes.evaluate node scope .null) fun _ => inductionHypothesis

end Composes

end Hostcall
