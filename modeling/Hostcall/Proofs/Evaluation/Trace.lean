import Hostcall.Evaluation

/-!
# Traces

A program does two things with its host: it looks names up in values, and it
calls objects.  A trace lists these acts in order, each with the state in which
the host was when it was asked.

Tracing is an access like any other, so the evaluator needs no change for it:
`Host.tracing` carries a trace beside the state of the host, and notes every
act before it is done.  What a callable does inside a call, running programs
included, belongs to the host and shows in the states of the acts that follow.
-/

namespace Hostcall

variable {State Fault Ref Content : Type}

/-- Something that a program does with the values of a host. -/
inductive Act (Ref : Type) where
  /-- A name is looked up in a value of any kind. -/
  | lookup (container : Value Ref) (name : String)
  /-- An object that can be called is called. -/
  | call (callee : Ref) (arguments : List (Value Ref))
deriving DecidableEq

/-- An act and the state in which it is done. -/
structure Event (State Ref : Type) where
  act : Act Ref
  state : State
deriving DecidableEq

abbrev Trace (State Ref : Type) := List (Event State Ref)

/-- The name that an act looks up; a call looks up none. -/
def Act.name? : Act Ref → Option String
  | .lookup _ name => some name
  | .call _ _ => none

/-- The names that are looked up in a trace. -/
def Trace.names (trace : Trace State Ref) : List String :=
  trace.filterMap fun event => event.act.name?

/-! ## Acts and their outcomes -/

namespace Host

variable (host : Host State Fault Ref)

def perform : Act Ref → EStateM Fault State (Value Ref)
  | .lookup container name => host.lookup container name
  | .call callee arguments => host.call callee arguments

/--
The host raises at an act, and the error escapes.  An object that is no mapping
may report a missing attribute without raising in this sense.
-/
inductive Raises : Act Ref → State → Fault → State → Prop where
  | lookup {ref name state fault after}
      (raised : host.get ref name state = .error fault after)
      (escapes : host.shape ref = .mapping ∨ host.reportsMissing fault = false) :
      Raises (.lookup (.object ref) name) state fault after
  | call {callee arguments state fault after}
      (raised : host.call callee arguments state = .error fault after) :
      Raises (.call callee arguments) state fault after

def RaisesAt (event : Event State Ref) : Prop :=
  ∃ fault after, host.Raises event.act event.state fault after

variable {host}

theorem perform_lookup_eq_error_iff
    {container : Value Ref}
    {name : String}
    {state after : State}
    {fault : Fault} :
    host.perform (.lookup container name) state = .error fault after ↔
      host.Raises (.lookup container name) state fault after := by
  constructor
  · intro raised
    cases container with
    | object ref =>
        simp only [perform, HostObjects.lookup] at raised
        cases shape : host.shape ref with
        | mapping =>
            rw [shape] at raised
            exact .lookup raised (Or.inl shape)
        | record =>
            simp only [shape, HostObjects.missingAsNull] at raised
            split at raised
            · simp at raised
            · next found =>
                split at raised
                · simp at raised
                · next reported =>
                    obtain ⟨rfl, rfl⟩ := EStateM.Result.error.inj raised
                    exact .lookup found (Or.inr (by simpa using reported))
    | null | bool | int | text | list =>
        simp [perform, HostObjects.lookup, pure, EStateM.pure] at raised
  · intro raises
    cases raises with
    | @lookup ref _ _ _ _ raised escapes =>
        simp only [perform, HostObjects.lookup]
        cases shape : host.shape ref with
        | mapping => exact raised
        | record =>
            have escaped : host.reportsMissing fault = false := by
              simpa [shape] using escapes
            simp [HostObjects.missingAsNull, raised, escaped]

/-- An act ends in an error exactly when the host raises at it. -/
theorem perform_eq_error_iff
    {act : Act Ref}
    {state after : State}
    {fault : Fault} :
    host.perform act state = .error fault after ↔ host.Raises act state fault after := by
  cases act with
  | lookup container name => exact perform_lookup_eq_error_iff
  | call callee arguments =>
      constructor
      · exact .call
      · intro raises
        cases raises with
        | call raised => exact raised

end Host

/-! ## Tracing -/

def traced
    (outcome : EStateM.Result Fault State Content)
    (trace : Trace State Ref) :
    EStateM.Result Fault (State × Trace State Ref) Content :=
  match outcome with
  | .ok content after => .ok content (after, trace)
  | .error fault after => .error fault (after, trace)

def traceOf : EStateM.Result Fault (State × Trace State Ref) Content → Trace State Ref
  | .ok _ after => after.2
  | .error _ after => after.2

@[simp]
theorem traceOf_traced
    (outcome : EStateM.Result Fault State Content)
    (trace : Trace State Ref) :
    traceOf (traced outcome trace) = trace := by
  cases outcome <;> rfl

namespace Host

/-- Do an act and note it at the end of the trace. -/
def note
    (host : Host State Fault Ref)
    (act : Act Ref) :
    EStateM Fault (State × Trace State Ref) (Value Ref) :=
  fun (state, past) => traced (host.perform act state) (past ++ [⟨act, state⟩])

theorem traceOf_note
    (host : Host State Fault Ref)
    (act : Act Ref)
    (state : State)
    (past : Trace State Ref) :
    traceOf (host.note act (state, past)) = past ++ [⟨act, state⟩] :=
  traceOf_traced _ _

/-- What a program can do with the values of a host, every act being noted. -/
def tracing (host : Host State Fault Ref) : Access (State × Trace State Ref) Fault Ref where
  lookup container name := host.note (.lookup container name)
  invoke
    | .object ref, arguments =>
        if host.callable ref then host.note (.call ref arguments) else pure .null
    | _, _ => pure .null

end Host

/-! ## Computations with their traces -/

/--
Whatever happened before it, the computation does the acts of the trace, from
the state on, and ends with the outcome.
-/
def Takes
    (computation : EStateM Fault (State × Trace State Ref) Content)
    (state : State)
    (trace : Trace State Ref)
    (outcome : EStateM.Result Fault State Content) :
    Prop :=
  ∀ past, computation (state, past) = traced outcome (past ++ trace)

namespace Takes

variable
  {Result : Type}
  {computation : EStateM Fault (State × Trace State Ref) Content}
  {next : Content → EStateM Fault (State × Trace State Ref) Result}
  {state after : State}
  {trace others : Trace State Ref}

theorem traceOf_eq
    {outcome : EStateM.Result Fault State Content}
    (takes : Takes computation state trace outcome) :
    traceOf (computation (state, [])) = trace := by
  simp [takes []]

/-- A computation ends in one way only. -/
theorem outcome_unique
    {outcome outcome' : EStateM.Result Fault State Content}
    (takes : Takes computation state trace outcome)
    (takes' : Takes computation state others outcome') :
    outcome = outcome' := by
  have same := (takes []).symm.trans (takes' [])
  cases outcome <;> cases outcome' <;> simp [traced] at same ⊢ <;> simp [same]

theorem pure
    (content : Content) :
    Takes (Pure.pure content : EStateM Fault (State × Trace State Ref) Content)
      state [] (.ok content state) := by
  intro past
  simp [Pure.pure, EStateM.pure, traced]

theorem andThen
    {content : Content}
    {outcome : EStateM.Result Fault State Result}
    (first : Takes computation state trace (.ok content after))
    (second : Takes (next content) after others outcome) :
    Takes (computation >>= next) state (trace ++ others) outcome := by
  intro past
  have returned := first past
  simp only [traced] at returned
  simp only [bind, EStateM.bind, returned]
  rw [second, List.append_assoc]

/-- The content that a computation returns may be put to use at once. -/
theorem andPure
    {content : Content}
    (first : Takes computation state trace (.ok content after))
    (result : Content → Result) :
    Takes (computation >>= fun content => Pure.pure (result content)) state trace
      (.ok (result content) after) := by
  rw [← List.append_nil trace]
  exact first.andThen (Takes.pure (result content))

theorem raised
    {fault : Fault}
    (first : Takes computation state trace (.error fault after)) :
    Takes (computation >>= next) state trace (.error fault after) := by
  intro past
  have raised := first past
  simp only [traced] at raised ⊢
  simp only [bind, EStateM.bind, raised]

end Takes

namespace Host

variable (host : Host State Fault Ref)

theorem takes_lookup
    (container : Value Ref)
    (name : String)
    (state : State) :
    Takes (host.tracing.lookup container name) state
      [⟨.lookup container name, state⟩] (host.lookup container name state) := by
  intro past
  rfl

variable {host}

theorem takes_call
    {callee : Ref}
    (callable : host.callable callee = true)
    (arguments : List (Value Ref))
    (state : State) :
    Takes (host.tracing.invoke (.object callee) arguments) state
      [⟨.call callee arguments, state⟩] (host.call callee arguments state) := by
  intro past
  simp only [tracing, callable, if_true]
  rfl

/-- What cannot be called is passed over. -/
theorem takes_skip
    {callee : Value Ref}
    (notCallable : ∀ ref, callee = .object ref → host.callable ref = false)
    (arguments : List (Value Ref))
    (state : State) :
    Takes (host.tracing.invoke callee arguments) state [] (.ok .null state) := by
  cases callee with
  | object ref =>
      simp only [tracing, notCallable ref rfl]
      exact .pure _
  | null | bool | int | text | list => exact .pure _

variable (host)

def evaluationTrace
    (node : Node)
    (scope invoked : Value Ref)
    (state : State) :
    Trace State Ref :=
  traceOf (host.tracing.evaluate node scope invoked (state, []))

def executionTrace
    (body : List Node)
    (scope : Value Ref)
    (state : State) :
    Trace State Ref :=
  traceOf (host.tracing.execute body scope (state, []))

def runTrace
    (scope : Value Ref)
    (source : String)
    (state : State) :
    Trace State Ref :=
  traceOf (host.tracing.run scope source (state, []))

end Host

end Hostcall
