import Hostcall.Proofs.Evaluation.Account
import Hostcall.Sandbox.Calling

/-!
# What calls return

What a call returns is seen by the next link of its chain, which calls it, and
by nothing else.  So it makes no difference which of several values a call
returns, as long as none of them can be called.

Two hosts are compared whose callables return the same or, in both hosts,
something that cannot be called, and that agree in everything else.  On both
every program does the same: the same names are looked up, the same objects are
called with the same arguments in the same states, and it ends in the same
state, with the same error if there is one.  This includes what callables do by
running programs themselves.  The proof carries one fact through the tree: a
node has one and the same evaluation for all values that its first link might
be given to call, if they differ in this way only.
-/

namespace Hostcall

variable {State Fault Ref Content Result : Type}

/-! ## Outcomes that resemble each other -/

/-- The outcomes differ at most in what is returned, and there only as the relation allows. -/
inductive Resembling (Same : Content → Content → Prop) :
    EStateM.Result Fault State Content → EStateM.Result Fault State Content → Prop where
  | ok {content content' after}
      (same : Same content content') :
      Resembling Same (.ok content after) (.ok content' after)
  | error {fault after} :
      Resembling Same (.error fault after) (.error fault after)

theorem Resembling.refl
    {Same : Content → Content → Prop}
    (reflexive : ∀ content, Same content content)
    (outcome : EStateM.Result Fault State Content) :
    Resembling Same outcome outcome := by
  cases outcome with
  | ok content after => exact .ok (reflexive content)
  | error fault after => exact .error

/-- From every state the computations have outcomes that resemble each other. -/
def Resemble
    (Same : Content → Content → Prop)
    (computation other : EStateM Fault State Content) :
    Prop :=
  ∀ state, Resembling Same (computation state) (other state)

/-- What goes on in the same way whatever is returned makes computations equal. -/
theorem Resemble.bind_eq
    {Same : Content → Content → Prop}
    {first first' : EStateM Fault State Content}
    {next next' : Content → EStateM Fault State Result}
    (before : Resemble Same first first')
    (after : ∀ {content content'}, Same content content' → next content = next' content') :
    (first >>= next) = (first' >>= next') := by
  funext state
  have met := before state
  simp only [Bind.bind, EStateM.bind]
  generalize first state = outcome, first' state = outcome' at met
  cases met with
  | ok same => exact congrFun (after same) _
  | error => rfl

theorem Resemble.andThen
    {Same : Result → Result → Prop}
    (first : EStateM Fault State Content)
    {next next' : Content → EStateM Fault State Result}
    (after : ∀ content, Resemble Same (next content) (next' content)) :
    Resemble Same (first >>= next) (first >>= next') := by
  intro state
  simp only [Bind.bind, EStateM.bind]
  cases first state with
  | ok content middle => exact after content middle
  | error fault middle => exact .error

/-! ## Evaluation with resembling calls -/

/--
Two accesses find the same under every name, and what they do with values that
the relation does not tell apart resembles each other.
-/
structure AlikeUpTo
    (Same : Value Ref → Value Ref → Prop)
    (access other : Access State Fault Ref) :
    Prop where
  reflexive : ∀ value, Same value value
  lookup : access.lookup = other.lookup
  invoke : ∀ {callee callee'}, Same callee callee' → ∀ arguments,
    Resemble Same (access.invoke callee arguments) (other.invoke callee' arguments)

namespace AlikeUpTo

variable
  {Same : Value Ref → Value Ref → Prop}
  {access other : Access State Fault Ref}

mutual

theorem evaluate_eq
    (alike : AlikeUpTo Same access other)
    (node : Node)
    (scope : Value Ref)
    {invoked invoked' : Value Ref}
    (same : Same invoked invoked') :
    access.evaluate node scope invoked = other.evaluate node scope invoked' := by
  cases node with
  | text value => simp only [Access.evaluate]
  | identifier name property =>
      by_cases absent : property = .absent
      · subst absent
        rw [Access.evaluate_name, Access.evaluate_name, alike.lookup]
      · rw [Access.evaluate_access absent, Access.evaluate_access absent, alike.lookup]
        refine bind_congr fun found => ?_
        exact alike.evaluate_eq property found (alike.reflexive .null)
  | call first chained =>
      rw [Access.evaluate, Access.evaluate]
      refine (alike.evaluateLink first scope same).bind_eq fun returned => ?_
      rw [alike.evaluateLinks_eq chained scope returned]
  | program | absent | foreign => simp only [Access.evaluate]

theorem evaluateAll_eq
    (alike : AlikeUpTo Same access other)
    (nodes : List Node)
    (scope : Value Ref) :
    access.evaluateAll nodes scope = other.evaluateAll nodes scope := by
  cases nodes with
  | nil => simp only [Access.evaluateAll]
  | cons node others =>
      simp only [Access.evaluateAll]
      rw [alike.evaluate_eq node scope (alike.reflexive .null), alike.evaluateAll_eq others scope]

/-- A link without a name calls what it is given; that is where the values are let in. -/
theorem evaluateLink
    (alike : AlikeUpTo Same access other)
    (link : Link Node)
    (scope : Value Ref)
    {invoked invoked' : Value Ref}
    (same : Same invoked invoked') :
    Resemble Same
      (access.evaluateLink link scope invoked)
      (other.evaluateLink link scope invoked') := by
  cases link with
  | mk name params =>
      simp only [Access.evaluateLink]
      rw [alike.evaluateAll_eq params scope]
      refine .andThen _ fun arguments => ?_
      cases name with
      | none => exact alike.invoke same arguments
      | some name =>
          simp only [alike.lookup]
          exact .andThen _ fun callee => alike.invoke (alike.reflexive callee) arguments

theorem evaluateLinks_eq
    (alike : AlikeUpTo Same access other)
    (links : List (Link Node))
    (scope : Value Ref)
    {invoked invoked' : Value Ref}
    (same : Same invoked invoked') :
    access.evaluateLinks links scope invoked = other.evaluateLinks links scope invoked' := by
  cases links with
  | nil => simp only [Access.evaluateLinks]
  | cons link others =>
      rw [Access.evaluateLinks, Access.evaluateLinks]
      exact (alike.evaluateLink link scope same).bind_eq fun returned =>
        alike.evaluateLinks_eq others scope returned

end

theorem execute_eq
    (alike : AlikeUpTo Same access other)
    (body : List Node)
    (scope : Value Ref) :
    access.execute body scope = other.execute body scope := by
  induction body with
  | nil => rfl
  | cons node others inductionHypothesis =>
      simp only [Access.execute]
      rw [alike.evaluate_eq node scope (alike.reflexive .null), inductionHypothesis]

theorem run_eq
    (alike : AlikeUpTo Same access other)
    (scope : Value Ref)
    (source : String) :
    access.run scope source = other.run scope source := by
  cases read : readSource source with
  | error error => rw [Access.run_of_error read, Access.run_of_error read]
  | ok body => rw [Access.run_of_ok read, Access.run_of_ok read, alike.execute_eq body scope]

end AlikeUpTo

/-! ## Values that cannot be told apart -/

/-- No object, or one that cannot be called. -/
def HostObjects.Uncallable
    (objects : HostObjects State Fault Ref)
    (value : Value Ref) :
    Prop :=
  ∀ ref, value = .object ref → objects.callable ref = false

theorem HostObjects.callable_or_uncallable
    (objects : HostObjects State Fault Ref)
    (value : Value Ref) :
    (∃ ref, value = .object ref ∧ objects.callable ref = true) ∨ objects.Uncallable value := by
  cases value with
  | object ref =>
      cases callable : objects.callable ref with
      | true => exact Or.inl ⟨ref, rfl, callable⟩
      | false =>
          refine Or.inr ?_
          rintro _ ⟨⟩
          exact callable
  | null | bool | int | text | list => exact Or.inr (by simp [Uncallable])

/-- The values are the same, or neither of them can be called. -/
def HostObjects.Interchangeable
    (objects : HostObjects State Fault Ref)
    (value other : Value Ref) :
    Prop :=
  value = other ∨ objects.Uncallable value ∧ objects.Uncallable other

theorem HostObjects.interchangeable_refl
    (objects : HostObjects State Fault Ref)
    (value : Value Ref) :
    objects.Interchangeable value value :=
  Or.inl rfl

/-! ## Hosts whose calls return something else -/

/-- Two hosts differ at most in the uncallable values that their calls return. -/
structure Host.ReturnsAlike (host other : Host State Fault Ref) : Prop where
  objects : host.toHostObjects = other.toHostObjects
  call : ∀ callee arguments,
    Resemble host.Interchangeable (host.call callee arguments) (other.call callee arguments)

theorem Resembling.traced
    {Same : Content → Content → Prop}
    {outcome other : EStateM.Result Fault State Content}
    (resembling : Resembling Same outcome other)
    (trace : Trace State Ref) :
    Resembling Same (traced outcome trace) (traced other trace) := by
  cases resembling with
  | ok same => exact .ok same
  | error => exact .error

/-- Neither an outcome nor a trace is lost when they are put together. -/
theorem traced_inj
    {outcome other : EStateM.Result Fault State Content}
    {trace further : Trace State Ref} :
    traced outcome trace = traced other further ↔ outcome = other ∧ trace = further := by
  cases outcome <;> cases other <;> simp [traced, and_assoc]

namespace Host

theorem tracing_invoke_of_callable
    {host : Host State Fault Ref}
    {ref : Ref}
    (callable : host.callable ref = true)
    (arguments : List (Value Ref)) :
    host.tracing.invoke (.object ref) arguments = host.note (.call ref arguments) := by
  simp only [tracing, callable, if_true]

theorem tracing_invoke_of_uncallable
    {host : Host State Fault Ref}
    {callee : Value Ref}
    (uncallable : host.Uncallable callee)
    (arguments : List (Value Ref)) :
    host.tracing.invoke callee arguments = pure .null := by
  funext ⟨state, past⟩
  have skipped := takes_skip uncallable arguments state past
  rwa [List.append_nil] at skipped

namespace ReturnsAlike

variable {host other : Host State Fault Ref}

theorem lookup_eq
    (alike : host.ReturnsAlike other) :
    host.tracing.lookup = other.tracing.lookup := by
  rcases host with ⟨objects, call⟩
  rcases other with ⟨objects', call'⟩
  obtain rfl : objects = objects' := alike.objects
  rfl

theorem alike_tracing
    (alike : host.ReturnsAlike other) :
    AlikeUpTo host.Interchangeable host.tracing other.tracing where
  reflexive := host.interchangeable_refl
  lookup := alike.lookup_eq
  invoke {callee callee'} same arguments := by
    have passed {callee callee' : Value Ref}
        (uncallable : host.Uncallable callee)
        (uncallable' : host.Uncallable callee') :
        Resemble host.Interchangeable
          (host.tracing.invoke callee arguments)
          (other.tracing.invoke callee' arguments) := by
      have uncallable' : other.Uncallable callee' := alike.objects ▸ uncallable'
      rw [tracing_invoke_of_uncallable uncallable, tracing_invoke_of_uncallable uncallable']
      exact fun state => .refl host.interchangeable_refl _
    rcases same with rfl | ⟨uncallable, uncallable'⟩
    · rcases host.callable_or_uncallable callee with ⟨ref, rfl, callable⟩ | uncallable
      · have callable' : other.callable ref = true := alike.objects ▸ callable
        rw [tracing_invoke_of_callable callable, tracing_invoke_of_callable callable']
        exact fun ⟨state, past⟩ => (alike.call ref arguments state).traced _
      · exact passed uncallable uncallable
    · exact passed uncallable uncallable'

/-- A run does the same acts on both hosts and ends in the same way. -/
theorem run_eq
    (alike : host.ReturnsAlike other)
    (scope : Value Ref)
    (source : String)
    (state : State) :
    host.access.run scope source state = other.access.run scope source state ∧
      host.runTrace scope source state = other.runTrace scope source state := by
  have same := congrFun (alike.alike_tracing.run_eq scope source) (state, [])
  rw [tracing_run, tracing_run] at same
  exact traced_inj.mp same

theorem execute_eq
    (alike : host.ReturnsAlike other)
    (body : List Node)
    (scope : Value Ref)
    (state : State) :
    host.access.execute body scope state = other.access.execute body scope state ∧
      host.executionTrace body scope state = other.executionTrace body scope state := by
  have same := congrFun (alike.alike_tracing.execute_eq body scope) (state, [])
  rw [host.takes_execute body scope state, other.takes_execute body scope state] at same
  exact traced_inj.mp same

end ReturnsAlike

end Host

/-! ## Callables that run programs -/

/-- The activities run the same texts, and they settle with outcomes that resemble each other. -/
inductive Activity.Alike (Same : Value Ref → Value Ref → Prop) :
    Activity State Fault Ref → Activity State Fault Ref → Prop where
  | settled {outcome outcome'}
      (resembling : Resembling Same outcome outcome') :
      Alike Same (.settled outcome) (.settled outcome')
  | running {source state resume resume'}
      (resumed : ∀ result, Alike Same (resume result) (resume' result)) :
      Alike Same (.running source state resume) (.running source state resume')

theorem Activity.Alike.refl
    {Same : Value Ref → Value Ref → Prop}
    (reflexive : ∀ value, Same value value)
    (activity : Activity State Fault Ref) :
    Activity.Alike Same activity activity := by
  induction activity with
  | settled outcome => exact .settled (.refl reflexive outcome)
  | running source state resume inductionHypothesis => exact .running inductionHypothesis

theorem Activity.Alike.outcome
    {Same : Value Ref → Value Ref → Prop}
    {activity other : Activity State Fault Ref}
    (alike : Activity.Alike Same activity other)
    (runText : String → EStateM (RunFailure Fault) State Unit) :
    Resembling Same (activity.outcome runText) (other.outcome runText) := by
  induction alike with
  | settled resembling => exact resembling
  | running _ inductionHypothesis => exact inductionHypothesis _

namespace ReentrantHost

/-- Two hosts differ at most in the uncallable values that their callables return. -/
structure ReturnsAlike (reentrant other : ReentrantHost State Fault Ref) : Prop where
  objects : reentrant.toHostObjects = other.toHostObjects
  root : reentrant.root = other.root
  tooDeep : reentrant.tooDeep = other.tooDeep
  activity : ∀ callee arguments state,
    Activity.Alike reentrant.Interchangeable
      (reentrant.activity callee arguments state)
      (other.activity callee arguments state)

namespace ReturnsAlike

variable {reentrant other : ReentrantHost State Fault Ref}

theorem hostWith
    (alike : reentrant.ReturnsAlike other)
    (runText : String → EStateM (RunFailure Fault) State Unit) :
    (reentrant.hostWith runText).ReturnsAlike (other.hostWith runText) where
  objects := alike.objects
  call callee arguments state := (alike.activity callee arguments state).outcome runText

/-- The runs inside calls are covered by those one level below. -/
theorem host
    (alike : reentrant.ReturnsAlike other)
    (depth : Nat) :
    (reentrant.host depth).ReturnsAlike (other.host depth) := by
  induction depth with
  | zero =>
      rw [ReentrantHost.host, ReentrantHost.host, alike.tooDeep]
      exact alike.hostWith _
  | succ depth inductionHypothesis =>
      have inner : (reentrant.host depth).access.run reentrant.root =
          (other.host depth).access.run other.root := by
        funext source state
        rw [alike.root]
        exact (inductionHypothesis.run_eq other.root source state).1
      rw [ReentrantHost.host, ReentrantHost.host, inner]
      exact alike.hostWith _

end ReturnsAlike

/--
What calls return is of no consequence as long as it cannot be called.  If two
hosts differ at most in such values, then every program does the same acts on
both, in the same states and with the same arguments, and ends in the same way:
in the same state, and with the same error if there is one.
-/
theorem run_indifferent
    {reentrant other : ReentrantHost State Fault Ref}
    (alike : reentrant.ReturnsAlike other)
    (depth : Nat)
    (scope : Value Ref)
    (state : State) :
    (∀ source,
      (reentrant.host depth).access.run scope source state =
          (other.host depth).access.run scope source state ∧
        (reentrant.host depth).runTrace scope source state =
          (other.host depth).runTrace scope source state) ∧
    ∀ body,
      (reentrant.host depth).access.execute body scope state =
          (other.host depth).access.execute body scope state ∧
        (reentrant.host depth).executionTrace body scope state =
          (other.host depth).executionTrace body scope state := by
  constructor
  · intro source
    exact (alike.host depth).run_eq scope source state
  · intro body
    exact (alike.host depth).execute_eq body scope state

end ReentrantHost

/-! ## One callable that returns something else -/

/-- The same activity, which returns the given value instead of its own. -/
def Activity.returning (value : Value Ref) : Activity State Fault Ref → Activity State Fault Ref
  | .settled (.ok _ after) => .settled (.ok value after)
  | .settled (.error fault after) => .settled (.error fault after)
  | .running source state resume =>
      .running source state fun result => returning value (resume result)

theorem Activity.alike_returning
    {Same : Value Ref → Value Ref → Prop}
    {value value' : Value Ref}
    (same : Same value value')
    (activity : Activity State Fault Ref) :
    Activity.Alike Same (activity.returning value) (activity.returning value') := by
  induction activity with
  | settled outcome =>
      cases outcome with
      | ok _ after => exact .settled (.ok same)
      | error fault after => exact .settled .error
  | running source state resume inductionHypothesis => exact .running inductionHypothesis

namespace ReentrantHost

/-- The same host, but one of its callables returns the given value. -/
def returning
    [DecidableEq Ref]
    (reentrant : ReentrantHost State Fault Ref)
    (callee : Ref)
    (value : Value Ref) :
    ReentrantHost State Fault Ref :=
  { reentrant with
    activity := fun ref arguments state =>
      if ref = callee then (reentrant.activity ref arguments state).returning value
      else reentrant.activity ref arguments state }

theorem returnsAlike_returning
    [DecidableEq Ref]
    {reentrant : ReentrantHost State Fault Ref}
    {value value' : Value Ref}
    (uncallable : reentrant.Uncallable value)
    (uncallable' : reentrant.Uncallable value')
    (callee : Ref) :
    (reentrant.returning callee value).ReturnsAlike (reentrant.returning callee value') where
  objects := rfl
  root := rfl
  tooDeep := rfl
  activity ref arguments state := by
    simp only [returning]
    split
    · exact Activity.alike_returning (Or.inr ⟨uncallable, uncallable'⟩) _
    · exact .refl reentrant.interchangeable_refl _

end ReentrantHost

namespace Sandbox

/-- An object that can be called and returns something. -/
def giving : Profile :=
  ⟨"give", .record, false, [], some ⟨none, none, none, none, .answers⟩⟩

/-- An object whose calls run a text that calls the other object, and chains a call to it. -/
def repeating : Profile :=
  ⟨"again", .record, false, [], some ⟨none, none, some "give(\"in\")(\"lost\")", none, .answers⟩⟩

/-- An object that cannot be called. -/
def idle : Profile :=
  ⟨"idle", .record, false, [], none⟩

def generous : World :=
  worldOf [("scope", .object ⟨"scope", .mapping, false, [], none⟩
    [("give", .object giving [] none []), ("again", .object repeating [] none []),
      ("idle", .object idle [] none [])] none [])]

def generousScope : Value Handle :=
  .object ⟨0, "scope", .mapping, false⟩

def giver : Handle :=
  ⟨1, "give", .record, true⟩

def idleObject : Value Handle :=
  .object ⟨3, "idle", .record, false⟩

/-- Programs in the scope, where calls of the giving object return a given value. -/
def generousHost (given : Value Handle) : ReentrantHost World Sandbox.Fault Handle :=
  (sandbox generousScope).returning giver given

/-- Calls of one object as argument, as callee, and inside a call of another object. -/
def generousSource : String := "give(give(\"a\"))(\"b\" idle) again(give)()"

/-- A text or an object that cannot be called: the program does not see which it is given. -/
theorem run_indifferent_generous :
    (∃ after,
      ((generousHost (.text "v")).host 1).call giver [] generous = .ok (.text "v") after ∧
        ((generousHost idleObject).host 1).call giver [] generous = .ok idleObject after) ∧
      (generousHost (.text "v")).ReturnsAlike (generousHost idleObject) ∧
      ((generousHost (.text "v")).host 1).access.run generousScope generousSource generous =
        ((generousHost idleObject).host 1).access.run generousScope generousSource generous ∧
      ((generousHost (.text "v")).host 1).runTrace generousScope generousSource generous =
        ((generousHost idleObject).host 1).runTrace generousScope generousSource generous ∧
      (((generousHost (.text "v")).host 1).runTrace generousScope generousSource generous).names =
        ["give", "give", "idle", "give", "again"] := by
  have alike : (generousHost (.text "v")).ReturnsAlike (generousHost idleObject) := by
    apply ReentrantHost.returnsAlike_returning
    · simp [HostObjects.Uncallable]
    · rintro _ ⟨⟩
      rfl
  have names :
      (((generousHost (.text "v")).host 1).runTrace generousScope generousSource generous).names =
        ["give", "give", "idle", "give", "again"] := by
    decide +kernel
  obtain ⟨runs, _⟩ := ReentrantHost.run_indifferent alike 1 generousScope generous
  refine ⟨⟨_, rfl, rfl⟩, alike, ?_, ?_, names⟩
  · exact (runs generousSource).1
  · exact (runs generousSource).2

end Sandbox

end Hostcall
