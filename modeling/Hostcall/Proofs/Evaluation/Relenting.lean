import Hostcall.Proofs.Evaluation.Failure
import Hostcall.Sandbox.Calling

/-!
# Nothing is done behind an error

That nothing is done behind the error that ends a run is put as a comparison
with another host.  Its callables and lookups are the same, but at the place of
the error they relent and return something.  Whatever they return, the program
does there all that it did before, in the same states, and may only go on.

Callables may run programs and catch the errors of these runs.  If inside one
of them the same callable or lookup raised before, the host that relents may
already differ there, and what the program does behind may be quite different.
So the comparison is made where this has not happened, and in particular on
every host whose callables pass the errors of their runs on.
-/

namespace Hostcall

variable {State Fault Ref : Type}

/-! ## What activities do -/

/-- Two acts are concerned with the same name of the same value, or call the same object. -/
def Act.SameTarget : Act Ref → Act Ref → Prop
  | .lookup container name, .lookup container' name' => container = container' ∧ name = name'
  | .call callee _, .call callee' _ => callee = callee'
  | _, _ => False

namespace Activity

/-- The activity comes to run a text in a state. -/
inductive Starts (runText : String → EStateM (RunFailure Fault) State Unit) :
    Activity State Fault Ref → String → State → Prop where
  | first {source state resume} :
      Starts runText (.running source state resume) source state
  | later {source state resume source' state'}
      (starts : Starts runText (resume (runText source state)) source' state') :
      Starts runText (.running source state resume) source' state'

/-- Only what is done by the runs that an activity starts makes a difference to its outcome. -/
theorem outcome_congr
    {runText runText' : String → EStateM (RunFailure Fault) State Unit}
    {activity : Activity State Fault Ref}
    (same : ∀ source state, activity.Starts runText source state →
      runText' source state = runText source state) :
    activity.outcome runText' = activity.outcome runText := by
  induction activity with
  | settled outcome => rfl
  | running source state resume inductionHypothesis =>
      rw [outcome, outcome, same source state .first]
      exact inductionHypothesis _ fun source' state' starts => same source' state' (.later starts)

/-- The other activity does the same, but may return where the first comes to raise. -/
inductive Relents : Activity State Fault Ref → Activity State Fault Ref → Prop where
  | same {outcome} :
      Relents (.settled outcome) (.settled outcome)
  | relented {fault after value after'} :
      Relents (.settled (.error fault after)) (.settled (.ok value after'))
  | running {source state resume resume'}
      (resumed : ∀ result, Relents (resume result) (resume' result)) :
      Relents (.running source state resume) (.running source state resume')

theorem Relents.outcome
    {activity other : Activity State Fault Ref}
    (relents : activity.Relents other)
    (runText : String → EStateM (RunFailure Fault) State Unit) :
    other.outcome runText = activity.outcome runText ∨
      ∃ fault after, activity.outcome runText = .error fault after := by
  induction relents with
  | same => exact Or.inl rfl
  | relented => exact Or.inr ⟨_, _, rfl⟩
  | running _ inductionHypothesis => exact inductionHypothesis _

/-- The same activity, but where it comes to raise, it returns a value instead. -/
def relenting (value : Value Ref) : Activity State Fault Ref → Activity State Fault Ref
  | .settled (.ok returned after) => .settled (.ok returned after)
  | .settled (.error _ after) => .settled (.ok value after)
  | .running source state resume =>
      .running source state fun result => relenting value (resume result)

/-- Whatever comes of the runs that it still starts, the activity raises. -/
inductive EndsInError : Activity State Fault Ref → Prop where
  | settled {fault after} :
      EndsInError (.settled (.error fault after))
  | running {source state resume}
      (resumed : ∀ result, EndsInError (resume result)) :
      EndsInError (.running source state resume)

theorem EndsInError.outcome
    {activity : Activity State Fault Ref}
    (ends : activity.EndsInError)
    (runText : String → EStateM (RunFailure Fault) State Unit) :
    ∃ fault after, activity.outcome runText = .error fault after := by
  induction ends with
  | settled => exact ⟨_, _, rfl⟩
  | running _ inductionHypothesis => exact inductionHypothesis _

/-- The activity catches no error of the runs that it starts: behind one it raises itself. -/
inductive PassesOn : Activity State Fault Ref → Prop where
  | settled {outcome} :
      PassesOn (.settled outcome)
  | running {source state resume}
      (completed : ∀ after, PassesOn (resume (.ok () after)))
      (failed : ∀ failure after, EndsInError (resume (.error failure after))) :
      PassesOn (.running source state resume)

end Activity

/-! ## Hosts that relent -/

namespace ReentrantHost

/--
The other host differs only in the lookups and calls with the same target as
the act: where these come to raise, they may return something.
-/
structure RelentsAt
    (reentrant other : ReentrantHost State Fault Ref)
    (act : Act Ref) :
    Prop where
  callable : other.callable = reentrant.callable
  root : other.root = reentrant.root
  tooDeep : other.tooDeep = reentrant.tooDeep
  lookup : ∀ container name state,
    other.lookup container name state = reentrant.lookup container name state ∨
      act.SameTarget (.lookup container name) ∧
        (∃ fault after, reentrant.lookup container name state = .error fault after) ∧
        ∃ value after, other.lookup container name state = .ok value after
  activity : ∀ callee arguments state,
    other.activity callee arguments state = reentrant.activity callee arguments state ∨
      act.SameTarget (.call callee arguments) ∧
        (reentrant.activity callee arguments state).Relents
          (other.activity callee arguments state)

/-- The same host, but where calling one object comes to raise, it returns a value instead. -/
def relenting
    [DecidableEq Ref]
    (reentrant : ReentrantHost State Fault Ref)
    (relented : Ref)
    (value : Value Ref) :
    ReentrantHost State Fault Ref :=
  { reentrant with
    activity := fun callee arguments state =>
      if callee = relented then (reentrant.activity callee arguments state).relenting value
      else reentrant.activity callee arguments state }

/-- No callable catches an error of a run that it starts. -/
def PassesOn (reentrant : ReentrantHost State Fault Ref) : Prop :=
  ∀ callee arguments state, (reentrant.activity callee arguments state).PassesOn

/-- Something with the target of the act raises at an event, or inside a run started there. -/
inductive RaisesWithin (reentrant : ReentrantHost State Fault Ref) (act : Act Ref) :
    Nat → Event State Ref → Prop where
  | here {depth event}
      (target : act.SameTarget event.act)
      (raises : (reentrant.host depth).RaisesAt event) :
      RaisesWithin reentrant act depth event
  | inside {depth callee arguments state source started inner}
      (starts : (reentrant.activity callee arguments state).Starts
        ((reentrant.host depth).access.run reentrant.root) source started)
      (member : inner ∈ (reentrant.host depth).runTrace reentrant.root source started)
      (within : RaisesWithin reentrant act depth inner) :
      RaisesWithin reentrant act (depth + 1) ⟨.call callee arguments, state⟩

variable {reentrant other : ReentrantHost State Fault Ref} {act : Act Ref}

@[simp]
theorem perform_lookup_host
    (reentrant : ReentrantHost State Fault Ref)
    (depth : Nat)
    (container : Value Ref)
    (name : String) :
    (reentrant.host depth).perform (.lookup container name) =
      reentrant.lookup container name := by
  cases depth <;> rfl

theorem callable_host
    (reentrant : ReentrantHost State Fault Ref)
    (depth : Nat) :
    (reentrant.host depth).callable = reentrant.callable := by
  cases depth <;> rfl

/-- Where nothing raises inside, a call ends the same on the host that relents. -/
theorem RelentsAt.call_eq
    (relents : reentrant.RelentsAt other act)
    {runText runText' : String → EStateM (RunFailure Fault) State Unit}
    {callee : Ref}
    {arguments : List (Value Ref)}
    {state : State}
    (same : ∀ source started,
      (reentrant.activity callee arguments state).Starts runText source started →
        runText' source started = runText source started)
    (quiet : ¬(act.SameTarget (.call callee arguments) ∧
      (reentrant.hostWith runText).RaisesAt ⟨.call callee arguments, state⟩)) :
    (other.hostWith runText').call callee arguments state =
      (reentrant.hostWith runText).call callee arguments state := by
  have inner := Activity.outcome_congr same
  rcases relents.activity callee arguments state with unchanged | ⟨target, relented⟩
  · change (other.activity callee arguments state).outcome runText' = _
    rw [unchanged, inner]
    rfl
  · rcases relented.outcome runText' with ended | ⟨fault, after, raised⟩
    · exact ended.trans inner
    · rw [inner] at raised
      exact absurd ⟨target, fault, after, .call raised⟩ quiet

theorem RelentsAt.perform_lookup_eq
    (relents : reentrant.RelentsAt other act)
    {depth : Nat}
    {container : Value Ref}
    {name : String}
    {state : State}
    (quiet : ¬reentrant.RaisesWithin act depth ⟨.lookup container name, state⟩) :
    (other.host depth).perform (.lookup container name) state =
      (reentrant.host depth).perform (.lookup container name) state := by
  rw [perform_lookup_host, perform_lookup_host]
  rcases relents.lookup container name state with unchanged | ⟨target, ⟨fault, after, raised⟩, _⟩
  · exact unchanged
  · have raises : (reentrant.host depth).Raises (.lookup container name) state fault after := by
      rw [← Host.perform_eq_error_iff, perform_lookup_host]
      exact raised
    exact absurd (.here target ⟨fault, after, raises⟩) quiet

/-- Where nothing with the target raises, the host that relents does the same. -/
theorem RelentsAt.perform_eq
    (relents : reentrant.RelentsAt other act)
    (depth : Nat)
    {event : Event State Ref}
    (quiet : ¬reentrant.RaisesWithin act depth event) :
    (other.host depth).perform event.act event.state =
      (reentrant.host depth).perform event.act event.state := by
  induction depth generalizing event with
  | zero =>
      rcases event with ⟨⟨container, name⟩ | ⟨callee, arguments⟩, state⟩
      · exact relents.perform_lookup_eq quiet
      · refine relents.call_eq (fun source started _ => ?_) fun raises =>
          quiet (.here raises.1 raises.2)
        rw [relents.tooDeep]
  | succ depth inductionHypothesis =>
      rcases event with ⟨⟨container, name⟩ | ⟨callee, arguments⟩, state⟩
      · exact relents.perform_lookup_eq quiet
      · refine relents.call_eq (fun source started starts => ?_) fun raises =>
          quiet (.here raises.1 raises.2)
        have callable : (other.host depth).callable = (reentrant.host depth).callable := by
          rw [callable_host, callable_host, relents.callable]
        rw [relents.root]
        exact Host.run_eq_of_perform_eq callable fun inner member =>
          inductionHypothesis fun within => quiet (.inside starts member within)

/-! ## Failing runs -/

/-- The ways in which a run fails. -/
inductive Fails
    (reentrant : ReentrantHost State Fault Ref)
    (depth : Nat)
    (scope : Value Ref)
    (source : String)
    (state : State) :
    RunFailure Fault → State → Prop where
  /-- The text is no program, and nothing has been done. -/
  | unread {error}
      (read : readSource source = .error error)
      (nothing : (reentrant.host depth).runTrace scope source state = []) :
      Fails reentrant depth scope source state (.source error) state
  /--
  The last act raised, and no other.  A host that relents there sees the same
  acts first, unless a callable caught such an error before.
  -/
  | raised {body fault after earlier last}
      (read : readSource source = .ok body)
      (trace : (reentrant.host depth).runTrace scope source state = earlier ++ [last])
      (raises : (reentrant.host depth).Raises last.act last.state fault after)
      (quiet : ∀ event ∈ earlier, ¬(reentrant.host depth).RaisesAt event)
      (further : ∀ other, reentrant.RelentsAt other last.act →
        (reentrant.PassesOn ∨ ∀ event ∈ earlier, ¬reentrant.RaisesWithin last.act depth event) →
          (reentrant.host depth).runTrace scope source state <+:
            (other.host depth).runTrace scope source state) :
      Fails reentrant depth scope source state (.raised fault) after

variable {depth : Nat} {scope : Value Ref} {source : String} {state : State}

/-- On a host that relents at the last act a run does all that was done before, and may go on. -/
theorem RelentsAt.runTrace_begins
    {earlier : Trace State Ref}
    {last : Event State Ref}
    (relents : reentrant.RelentsAt other last.act)
    (trace : (reentrant.host depth).runTrace scope source state = earlier ++ [last])
    (raises : (reentrant.host depth).RaisesAt last)
    (uncaught : ∀ event ∈ earlier, ¬reentrant.RaisesWithin last.act depth event) :
    (reentrant.host depth).runTrace scope source state <+:
      (other.host depth).runTrace scope source state := by
  have callable : (other.host depth).callable = (reentrant.host depth).callable := by
    rw [callable_host, callable_host, relents.callable]
  refine Host.runTrace_begins callable fun event member => ?_
  rw [trace] at member
  rcases List.mem_append.mp member with before | final
  · intro value after performed
    exact (relents.perform_eq depth (uncaught event before)).trans performed
  · obtain rfl := List.mem_singleton.mp final
    rcases raises with ⟨fault, after, raises⟩
    exact Host.upheldBy_of_raises raises _

end ReentrantHost

/-! ## A run inside a run -/

namespace Sandbox

end Sandbox

/-! ## Errors that callables keep inside -/

/-- The objects of a small host: its scope, one that always raises, and one that catches. -/
inductive Piece where
  | scope
  | failing
  | careful
deriving DecidableEq, Repr

end Hostcall
