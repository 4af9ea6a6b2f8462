import Hostcall.Proofs.Evaluation.Account

/-!
# The rules of evaluation

The rules say what evaluation does, one construct at a time and down to what
the host is asked: which acts are done in which states, what value comes out,
or which error ends it, and in which state the host is left.  They are stated
without regard to how the evaluator proceeds.  In particular a chained link is
a call of its own, evaluated in the scope of the call before it, on whatever
that call returned.

The evaluator follows the rules exactly.  Every derivation describes what it
does, and since every node can be derived in every state, there is a
derivation for whatever it does.
-/

namespace Hostcall.Host

variable {State Fault Ref : Type} (host : Host State Fault Ref)

/-- How looking a name up ends. -/
inductive LooksUp :
    Value Ref → String → State → EStateM.Result Fault State (Value Ref) → Prop where
  /-- What is no object has nothing under any name, and the host is not asked. -/
  | nothing {container name state}
      (noObject : ∀ ref, container ≠ .object ref) :
      LooksUp container name state (.ok .null state)
  | found {ref name state value after}
      (found : host.get ref name state = .ok value after) :
      LooksUp (.object ref) name state (.ok value after)
  /-- An object other than a mapping may say that it lacks the attribute. -/
  | missing {ref name state fault after}
      (record : host.shape ref = .record)
      (reported : host.get ref name state = .error fault after)
      (missing : host.reportsMissing fault = true) :
      LooksUp (.object ref) name state (.ok .null after)
  | raised {container name state fault after}
      (raises : host.Raises (.lookup container name) state fault after) :
      LooksUp container name state (.error fault after)

/-- How calling a value goes: an object that can be called is called, and nothing else is. -/
inductive Invokes :
    Value Ref → List (Value Ref) → State → Trace State Ref →
      EStateM.Result Fault State (Value Ref) → Prop where
  | called {callee arguments state outcome}
      (callable : host.callable callee = true)
      (ended : host.call callee arguments state = outcome) :
      Invokes (.object callee) arguments state [⟨.call callee arguments, state⟩] outcome
  | passedOver {callee arguments state}
      (notCallable : ∀ ref, callee = .object ref → host.callable ref = false) :
      Invokes callee arguments state [] (.ok .null state)

mutual

/-- How evaluating a node in a scope goes, given the value that a link without a name calls. -/
inductive Evaluates :
    Node → Value Ref → Value Ref → State → Trace State Ref →
      EStateM.Result Fault State (Value Ref) → Prop where
  | text {value scope invoked state} :
      Evaluates (.text value) scope invoked state [] (.ok (.text value) state)
  | name {name scope invoked state outcome}
      (looked : LooksUp host scope name state outcome) :
      Evaluates (.identifier name .absent) scope invoked state
        [⟨.lookup scope name, state⟩] outcome
  /-- What is accessed on a name is evaluated in the value of the name, with nothing invoked. -/
  | access {name property scope invoked state found middle trace outcome}
      (present : property ≠ .absent)
      (looked : LooksUp host scope name state (.ok found middle))
      (accessed : Evaluates property found .null middle trace outcome) :
      Evaluates (.identifier name property) scope invoked state
        (⟨.lookup scope name, state⟩ :: trace) outcome
  | accessRaised {name property scope invoked state fault after}
      (present : property ≠ .absent)
      (looked : LooksUp host scope name state (.error fault after)) :
      Evaluates (.identifier name property) scope invoked state
        [⟨.lookup scope name, state⟩] (.error fault after)
  /-- What a call returns is not the value of the call. -/
  | call {link scope invoked state trace returned after}
      (called : Returns link scope invoked state trace (.ok returned after)) :
      Evaluates (.call link []) scope invoked state trace (.ok .null after)
  | callRaised {link chained scope invoked state trace fault after}
      (called : Returns link scope invoked state trace (.error fault after)) :
      Evaluates (.call link chained) scope invoked state trace (.error fault after)
  /-- The next link is evaluated in the same scope, on what the call before it returned. -/
  | chained {first link others scope invoked state trace returned middle behind value after}
      (called : Returns first scope invoked state trace (.ok returned middle))
      (child : Evaluates (.call link others) scope returned middle behind (.ok value after)) :
      Evaluates (.call first (link :: others)) scope invoked state (trace ++ behind)
        (.ok .null after)
  | chainedRaised {first link others scope invoked state trace returned middle behind fault after}
      (called : Returns first scope invoked state trace (.ok returned middle))
      (child : Evaluates (.call link others) scope returned middle behind (.error fault after)) :
      Evaluates (.call first (link :: others)) scope invoked state (trace ++ behind)
        (.error fault after)
  | program {body scope invoked state} :
      Evaluates (.program body) scope invoked state [] (.ok .null state)
  | absent {scope invoked state} :
      Evaluates .absent scope invoked state [] (.ok .null state)
  | foreign {type scope invoked state} :
      Evaluates (.foreign type) scope invoked state [] (.ok .null state)

/-- How evaluating arguments from left to right goes. -/
inductive EvaluatesAll :
    List Node → Value Ref → State → Trace State Ref →
      EStateM.Result Fault State (List (Value Ref)) → Prop where
  | nil {scope state} :
      EvaluatesAll [] scope state [] (.ok [] state)
  | cons {node others scope state trace value middle behind values after}
      (first : Evaluates node scope .null state trace (.ok value middle))
      (rest : EvaluatesAll others scope middle behind (.ok values after)) :
      EvaluatesAll (node :: others) scope state (trace ++ behind) (.ok (value :: values) after)
  | firstRaised {node others scope state trace fault after}
      (first : Evaluates node scope .null state trace (.error fault after)) :
      EvaluatesAll (node :: others) scope state trace (.error fault after)
  | restRaised {node others scope state trace value middle behind fault after}
      (first : Evaluates node scope .null state trace (.ok value middle))
      (rest : EvaluatesAll others scope middle behind (.error fault after)) :
      EvaluatesAll (node :: others) scope state (trace ++ behind) (.error fault after)

/-- How the call of a link goes: first its arguments, then its callee, then the call. -/
inductive Returns :
    Link Node → Value Ref → Value Ref → State → Trace State Ref →
      EStateM.Result Fault State (Value Ref) → Prop where
  | named {name params scope invoked state trace arguments middle callee before behind outcome}
      (evaluated : EvaluatesAll params scope state trace (.ok arguments middle))
      (looked : LooksUp host scope name middle (.ok callee before))
      (invokes : Invokes host callee arguments before behind outcome) :
      Returns ⟨some name, params⟩ scope invoked state
        (trace ++ ⟨.lookup scope name, middle⟩ :: behind) outcome
  | unnamed {params scope invoked state trace arguments middle behind outcome}
      (evaluated : EvaluatesAll params scope state trace (.ok arguments middle))
      (invokes : Invokes host invoked arguments middle behind outcome) :
      Returns ⟨none, params⟩ scope invoked state (trace ++ behind) outcome
  | argumentsRaised {name params scope invoked state trace fault after}
      (evaluated : EvaluatesAll params scope state trace (.error fault after)) :
      Returns ⟨name, params⟩ scope invoked state trace (.error fault after)
  | calleeRaised {name params scope invoked state trace arguments middle fault after}
      (evaluated : EvaluatesAll params scope state trace (.ok arguments middle))
      (looked : LooksUp host scope name middle (.error fault after)) :
      Returns ⟨some name, params⟩ scope invoked state
        (trace ++ [⟨.lookup scope name, middle⟩]) (.error fault after)

end

/-! ## The evaluator does what is derived -/

variable {host}

theorem LooksUp.takes
    {container : Value Ref}
    {name : String}
    {state : State}
    {outcome : EStateM.Result Fault State (Value Ref)}
    (looked : host.LooksUp container name state outcome) :
    Takes (host.tracing.lookup container name) state
      [⟨.lookup container name, state⟩] outcome := by
  have ended : host.lookup container name state = outcome := by
    cases looked with
    | nothing noObject =>
        cases container with
        | object ref => exact absurd rfl (noObject ref)
        | null | bool | int | text | list => rfl
    | @found ref _ _ _ _ found =>
        cases shape : host.shape ref <;>
          simp [HostObjects.lookup, HostObjects.missingAsNull, shape, found]
    | missing record reported missing =>
        exact HostObjects.lookup_of_missing record reported missing
    | raised raises => exact perform_eq_error_iff.mpr raises
  rw [← ended]
  exact host.takes_lookup container name state

theorem Invokes.takes
    {callee : Value Ref}
    {arguments : List (Value Ref)}
    {state : State}
    {trace : Trace State Ref}
    {outcome : EStateM.Result Fault State (Value Ref)}
    (invokes : host.Invokes callee arguments state trace outcome) :
    Takes (host.tracing.invoke callee arguments) state trace outcome := by
  cases invokes with
  | called callable ended =>
      rw [← ended]
      exact takes_call callable arguments state
  | passedOver notCallable => exact takes_skip notCallable arguments state

mutual

theorem Evaluates.takes
    {node : Node}
    {scope invoked : Value Ref}
    {state : State}
    {trace : Trace State Ref}
    {outcome : EStateM.Result Fault State (Value Ref)}
    (evaluates : host.Evaluates node scope invoked state trace outcome) :
    Takes (host.tracing.evaluate node scope invoked) state trace outcome := by
  match evaluates with
  | .text =>
      rw [Access.evaluate]
      exact .pure _
  | .name looked =>
      rw [Access.evaluate_name]
      exact looked.takes
  | .access present looked accessed =>
      rw [Access.evaluate_access present]
      exact looked.takes.andThen accessed.takes
  | .accessRaised present looked =>
      rw [Access.evaluate_access present]
      exact looked.takes.raised
  | .call called =>
      simp only [Access.evaluate, Access.evaluateLinks, pure_bind]
      exact called.takes.andPure fun _ => Value.null
  | .callRaised called =>
      rw [Access.evaluate]
      exact called.takes.raised
  | .chained called child =>
      rw [Access.evaluate_chained]
      exact called.takes.andThen (child.takes.andPure fun _ => Value.null)
  | .chainedRaised called child =>
      rw [Access.evaluate_chained]
      exact called.takes.andThen child.takes.raised
  | .program | .absent | .foreign =>
      rw [Access.evaluate]
      exact .pure _
termination_by structural evaluates

theorem EvaluatesAll.takes
    {nodes : List Node}
    {scope : Value Ref}
    {state : State}
    {trace : Trace State Ref}
    {outcome : EStateM.Result Fault State (List (Value Ref))}
    (evaluates : host.EvaluatesAll nodes scope state trace outcome) :
    Takes (host.tracing.evaluateAll nodes scope) state trace outcome := by
  match evaluates with
  | .nil =>
      rw [Access.evaluateAll]
      exact .pure _
  | .cons first rest =>
      rw [Access.evaluateAll]
      exact first.takes.andThen (rest.takes.andPure _)
  | .firstRaised first =>
      rw [Access.evaluateAll]
      exact first.takes.raised
  | .restRaised first rest =>
      rw [Access.evaluateAll]
      exact first.takes.andThen rest.takes.raised
termination_by structural evaluates

theorem Returns.takes
    {link : Link Node}
    {scope invoked : Value Ref}
    {state : State}
    {trace : Trace State Ref}
    {outcome : EStateM.Result Fault State (Value Ref)}
    (returns : host.Returns link scope invoked state trace outcome) :
    Takes (host.tracing.evaluateLink link scope invoked) state trace outcome := by
  rw [Access.evaluateLink]
  match returns with
  | .named evaluated looked invokes =>
      exact evaluated.takes.andThen (looked.takes.andThen invokes.takes)
  | .unnamed evaluated invokes =>
      exact evaluated.takes.andThen ((Takes.pure _).andThen invokes.takes)
  | .argumentsRaised evaluated => exact evaluated.takes.raised
  | .calleeRaised evaluated looked => exact evaluated.takes.andThen looked.takes.raised
termination_by structural returns

end

/-! ## Everything can be derived -/

variable (host)

theorem exists_looksUp
    (container : Value Ref)
    (name : String)
    (state : State) :
    ∃ outcome, host.LooksUp container name state outcome := by
  cases container with
  | object ref =>
      cases asked : host.get ref name state with
      | ok value after => exact ⟨_, .found asked⟩
      | error fault after =>
          cases shape : host.shape ref with
          | mapping => exact ⟨_, .raised (.lookup asked (Or.inl shape))⟩
          | record =>
              cases missing : host.reportsMissing fault with
              | true => exact ⟨_, .missing shape asked missing⟩
              | false => exact ⟨_, .raised (.lookup asked (Or.inr missing))⟩
  | null | bool | int | text | list => exact ⟨_, .nothing (by simp)⟩

theorem exists_invokes
    (callee : Value Ref)
    (arguments : List (Value Ref))
    (state : State) :
    ∃ trace outcome, host.Invokes callee arguments state trace outcome := by
  cases callee with
  | object ref =>
      cases callable : host.callable ref with
      | true => exact ⟨_, _, .called callable rfl⟩
      | false =>
          refine ⟨_, _, .passedOver ?_⟩
          rintro _ ⟨⟩
          exact callable
  | null | bool | int | text | list => exact ⟨_, _, .passedOver (by simp)⟩

mutual

theorem exists_evaluates
    (node : Node)
    (scope invoked : Value Ref)
    (state : State) :
    ∃ trace outcome, host.Evaluates node scope invoked state trace outcome := by
  match node with
  | .text _ => exact ⟨_, _, .text⟩
  | .identifier name property =>
      rcases host.exists_looksUp scope name state with ⟨outcome, looked⟩
      by_cases present : property = .absent
      · subst present
        exact ⟨_, _, .name looked⟩
      · cases outcome with
        | ok found middle =>
            rcases exists_evaluates property found .null middle with ⟨_, _, accessed⟩
            exact ⟨_, _, .access present looked accessed⟩
        | error fault after => exact ⟨_, _, .accessRaised present looked⟩
  | .call first chained =>
      rcases exists_returns first scope invoked state with ⟨_, outcome, called⟩
      cases outcome with
      | ok returned middle => exact exists_chained chained called
      | error fault after => exact ⟨_, _, .callRaised called⟩
  | .program _ => exact ⟨_, _, .program⟩
  | .absent => exact ⟨_, _, .absent⟩
  | .foreign _ => exact ⟨_, _, .foreign⟩
termination_by structural node

theorem exists_evaluatesAll
    (nodes : List Node)
    (scope : Value Ref)
    (state : State) :
    ∃ trace outcome, host.EvaluatesAll nodes scope state trace outcome := by
  match nodes with
  | [] => exact ⟨_, _, .nil⟩
  | node :: others =>
      rcases exists_evaluates node scope .null state with ⟨_, outcome, first⟩
      cases outcome with
      | error fault after => exact ⟨_, _, .firstRaised first⟩
      | ok value middle =>
          rcases exists_evaluatesAll others scope middle with ⟨_, outcome, rest⟩
          cases outcome with
          | ok values after => exact ⟨_, _, .cons first rest⟩
          | error fault after => exact ⟨_, _, .restRaised first rest⟩
termination_by structural nodes

theorem exists_returns
    (link : Link Node)
    (scope invoked : Value Ref)
    (state : State) :
    ∃ trace outcome, host.Returns link scope invoked state trace outcome := by
  match link with
  | ⟨name, params⟩ =>
      rcases exists_evaluatesAll params scope state with ⟨_, outcome, evaluated⟩
      cases outcome with
      | error fault after => exact ⟨_, _, .argumentsRaised evaluated⟩
      | ok arguments middle =>
          cases name with
          | none =>
              rcases host.exists_invokes invoked arguments middle with ⟨_, _, invokes⟩
              exact ⟨_, _, .unnamed evaluated invokes⟩
          | some name =>
              rcases host.exists_looksUp scope name middle with ⟨outcome, looked⟩
              cases outcome with
              | error fault after => exact ⟨_, _, .calleeRaised evaluated looked⟩
              | ok callee before =>
                  rcases host.exists_invokes callee arguments before with ⟨_, _, invokes⟩
                  exact ⟨_, _, .named evaluated looked invokes⟩
termination_by structural link

theorem exists_chained
    (chained : List (Link Node))
    {first : Link Node}
    {scope invoked returned : Value Ref}
    {state middle : State}
    {trace : Trace State Ref}
    (called : host.Returns first scope invoked state trace (.ok returned middle)) :
    ∃ trace outcome, host.Evaluates (.call first chained) scope invoked state trace outcome := by
  match chained with
  | [] => exact ⟨_, _, .call called⟩
  | link :: others =>
      rcases exists_returns link scope returned middle with ⟨_, outcome, next⟩
      cases outcome with
      | error fault after => exact ⟨_, _, .chainedRaised called (.callRaised next)⟩
      | ok returned after =>
          rcases exists_chained others next with ⟨_, outcome, child⟩
          cases outcome with
          | ok value after => exact ⟨_, _, .chained called child⟩
          | error fault after => exact ⟨_, _, .chainedRaised called child⟩
termination_by structural chained

end

/-- Evaluation ends as the rules say, after doing what the rules say, and in no other way. -/
theorem evaluates_iff
    (node : Node)
    (scope invoked : Value Ref)
    (state : State)
    (trace : Trace State Ref)
    (outcome : EStateM.Result Fault State (Value Ref)) :
    host.Evaluates node scope invoked state trace outcome ↔
      host.access.evaluate node scope invoked state = outcome ∧
        host.evaluationTrace node scope invoked state = trace := by
  have sound {trace : Trace State Ref} {outcome : EStateM.Result Fault State (Value Ref)}
      (derived : host.Evaluates node scope invoked state trace outcome) :
      host.access.evaluate node scope invoked state = outcome ∧
        host.evaluationTrace node scope invoked state = trace :=
    ⟨(host.takes_evaluate node scope invoked state).outcome_unique derived.takes,
      derived.takes.traceOf_eq⟩
  constructor
  · exact sound
  · rintro ⟨rfl, rfl⟩
    rcases host.exists_evaluates node scope invoked state with ⟨trace, outcome, derived⟩
    rcases sound derived with ⟨rfl, rfl⟩
    exact derived

end Hostcall.Host
