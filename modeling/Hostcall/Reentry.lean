import Hostcall.Evaluation

/-!
# Callables that run programs

A callable of a host may itself run source texts in the root scope of the
program that called it.  Here such a callable is described by an activity:
either it has settled, or it runs a text and goes on with the outcome.

Runs inside runs could go on without end, so the host that carries activities
out is built for a greatest depth of nesting.  A run beyond that depth raises.
-/

namespace Hostcall

/-- What a callable still does. -/
inductive Activity (State Fault Ref : Type) where
  /-- It has returned or raised. -/
  | settled (outcome : EStateM.Result Fault State (Value Ref))
  /-- It runs a text in a state and goes on with the outcome. -/
  | running
      (source : String)
      (state : State)
      (resume : EStateM.Result (RunFailure Fault) State Unit → Activity State Fault Ref)

variable {State Fault Ref : Type}

/-- Carry an activity out, given what running a text does. -/
def Activity.outcome
    (runText : String → EStateM (RunFailure Fault) State Unit) :
    Activity State Fault Ref → EStateM.Result Fault State (Value Ref)
  | .settled outcome => outcome
  | .running source state resume => outcome runText (resume (runText source state))

/-- A host whose callables are described by activities. -/
structure ReentrantHost (State Fault Ref : Type) extends HostObjects State Fault Ref where
  /-- What calling an object does. -/
  activity : Ref → List (Value Ref) → State → Activity State Fault Ref
  /-- The scope in which callables run texts. -/
  root : Value Ref
  /-- What a run beyond the greatest depth raises. -/
  tooDeep : Fault

namespace ReentrantHost

/-- The host whose callables run texts in a given way. -/
def hostWith
    (reentrant : ReentrantHost State Fault Ref)
    (runText : String → EStateM (RunFailure Fault) State Unit) :
    Host State Fault Ref where
  toHostObjects := reentrant.toHostObjects
  call := fun ref arguments state =>
    (reentrant.activity ref arguments state).outcome runText

/-- The host whose callables may nest their runs to a given depth. -/
def host (reentrant : ReentrantHost State Fault Ref) : Nat → Host State Fault Ref
  | 0 => reentrant.hostWith fun _ state => .error (.raised reentrant.tooDeep) state
  | depth + 1 => reentrant.hostWith ((host reentrant depth).access.run reentrant.root)

end ReentrantHost

end Hostcall
