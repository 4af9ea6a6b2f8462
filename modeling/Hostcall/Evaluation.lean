import Hostcall.Host
import Hostcall.Source

/-!
# Evaluation

A statement is evaluated in a scope, a value whose parts are the names in
reach.  A name is looked up in the scope, and what is accessed on it is
evaluated in the value found.  A call evaluates its arguments in its own scope,
finds what to call and calls it; a link that is chained to it calls the value
returned, whether or not anything was called before.  The call as a whole is
null: what it returned is seen only by the next link.

Names without a value and values that cannot be called are no errors.  The
only errors are those that lookups and calls raise, and they end everything at
once.
-/

namespace Hostcall

variable {State Fault Ref : Type}

namespace Access

mutual

/--
The value of a node in a scope.  The invoked value is what a link without a
name calls; only a call looks at it.
-/
def evaluate (access : Access State Fault Ref) :
    Node → Value Ref → Value Ref → EStateM Fault State (Value Ref)
  | .text value, _, _ => pure (.text value)
  | .identifier name property, scope, _ => follow access name property scope
  | .call first chained, scope, invoked => do
      let returned ← evaluateLink access first scope invoked
      evaluateLinks access chained scope returned
      pure .null
  | .program _, _, _ => pure .null
  | .absent, _, _ => pure .null
  | .foreign _, _, _ => pure .null
termination_by node => 2 * sizeOf node

/--
Follow names from value to value: each is looked up in what the one before it
led to.  This goes on until there is no further property, or one that is not a
name, which is then evaluated in the value reached.
-/
def follow (access : Access State Fault Ref) :
    String → Node → Value Ref → EStateM Fault State (Value Ref)
  | name, .absent, scope => access.lookup scope name
  | name, property, scope => do
      let found ← access.lookup scope name
      match property with
      | .identifier next behind => follow access next behind found
      | property => evaluate access property found .null
termination_by _ property => 2 * sizeOf property + 1

/-- The values of arguments, from left to right. -/
def evaluateAll (access : Access State Fault Ref) :
    List Node → Value Ref → EStateM Fault State (List (Value Ref))
  | [], _ => pure []
  | node :: others, scope => do
      let value ← evaluate access node scope .null
      let values ← evaluateAll access others scope
      pure (value :: values)
termination_by nodes => 2 * sizeOf nodes

/-- What the call of one link returns: first the arguments, then the callee, then the call. -/
def evaluateLink (access : Access State Fault Ref) :
    Link Node → Value Ref → Value Ref → EStateM Fault State (Value Ref)
  | ⟨name, params⟩, scope, invoked => do
      let arguments ← evaluateAll access params scope
      let callee ←
        match name with
        | some name => access.lookup scope name
        | none => pure invoked
      access.invoke callee arguments
termination_by link => 2 * sizeOf link

/-- Call chained links in order, each with what the one before returned. -/
def evaluateLinks (access : Access State Fault Ref) :
    List (Link Node) → Value Ref → Value Ref → EStateM Fault State Unit
  | [], _, _ => pure ()
  | link :: others, scope, invoked => do
      let returned ← evaluateLink access link scope invoked
      evaluateLinks access others scope returned
termination_by links => 2 * sizeOf links

end

/-- A step of the loop: a property that is a name goes on as it would on its own. -/
theorem follow_of_present
    {property : Node}
    (present : property ≠ .absent)
    (access : Access State Fault Ref)
    (name : String)
    (scope : Value Ref) :
    access.follow name property scope = (do
      let found ← access.lookup scope name
      access.evaluate property found .null) := by
  cases property with
  | absent => exact absurd rfl present
  | identifier next behind =>
      rw [follow]
      · simp only [evaluate]
      · exact present
  | text | call | program | foreign =>
      rw [follow]
      exact present

theorem evaluate_access
    {property : Node}
    (present : property ≠ .absent)
    (access : Access State Fault Ref)
    (name : String)
    (scope invoked : Value Ref) :
    access.evaluate (.identifier name property) scope invoked = (do
      let found ← access.lookup scope name
      access.evaluate property found .null) := by
  rw [evaluate, follow_of_present present]

theorem evaluate_name
    (access : Access State Fault Ref)
    (name : String)
    (scope invoked : Value Ref) :
    access.evaluate (.identifier name .absent) scope invoked = access.lookup scope name := by
  simp only [evaluate, follow]

/-- The links behind the first one are a call of their own, on what the first one returned. -/
theorem evaluate_chained
    (access : Access State Fault Ref)
    (first link : Link Node)
    (others : List (Link Node))
    (scope invoked : Value Ref) :
    access.evaluate (.call first (link :: others)) scope invoked = (do
      let returned ← access.evaluateLink first scope invoked
      let _ ← access.evaluate (.call link others) scope returned
      pure .null) := by
  simp only [evaluate, evaluateLinks, bind_assoc, pure_bind]

/-- Evaluate statements in order, all in one scope. -/
def execute (access : Access State Fault Ref) :
    List Node → Value Ref → EStateM Fault State Unit
  | [], _ => pure ()
  | node :: others, scope => do
      let _ ← access.evaluate node scope .null
      execute access others scope

end Access

/-- Why running a source text ended early. -/
inductive RunFailure (Fault : Type) where
  /-- The text is not a program; nothing was evaluated. -/
  | source (error : SourceError)
  /-- A lookup or a call raised. -/
  | raised (fault : Fault)
deriving DecidableEq, Repr

/-- Read a source text and evaluate its statements in a scope. -/
def Access.run
    (access : Access State Fault Ref)
    (scope : Value Ref)
    (source : String) :
    EStateM (RunFailure Fault) State Unit :=
  match readSource source with
  | .error error => throw (.source error)
  | .ok body => (access.execute body scope).adaptExcept .raised

namespace Access

variable {source : String}

theorem run_of_error
    {error : SourceError}
    (failed : readSource source = .error error)
    (access : Access State Fault Ref)
    (scope : Value Ref) :
    access.run scope source = throw (.source error) := by
  rw [run, failed]

theorem run_eq_error_of_error
    {error : SourceError}
    (failed : readSource source = .error error)
    (access : Access State Fault Ref)
    (scope : Value Ref)
    (state : State) :
    access.run scope source state = .error (.source error) state := by
  rw [run_of_error failed]
  rfl

theorem run_of_ok
    {body : List Node}
    (read : readSource source = .ok body)
    (access : Access State Fault Ref)
    (scope : Value Ref) :
    access.run scope source = (access.execute body scope).adaptExcept .raised := by
  rw [run, read]

/-- A run is completed when the text is a program and all its statements are. -/
theorem run_eq_ok_iff
    {access : Access State Fault Ref}
    {scope : Value Ref}
    {state after : State} :
    access.run scope source state = .ok () after ↔
      ∃ body, readSource source = .ok body ∧ access.execute body scope state = .ok () after := by
  cases read : readSource source with
  | error error => simp [run_eq_error_of_error read]
  | ok body =>
      rw [run_of_ok read, EStateM.adaptExcept]
      cases executed : access.execute body scope state <;> simp [executed]

/-- A run fails for want of a program, or with the error that a statement raised. -/
theorem run_eq_error_iff
    {access : Access State Fault Ref}
    {scope : Value Ref}
    {failure : RunFailure Fault}
    {state after : State} :
    access.run scope source state = .error failure after ↔
      (∃ error, readSource source = .error error ∧ failure = .source error ∧ after = state) ∨
        ∃ body fault, readSource source = .ok body ∧ failure = .raised fault ∧
          access.execute body scope state = .error fault after := by
  cases read : readSource source with
  | error error =>
      simp [run_eq_error_of_error read, eq_comm]
  | ok body =>
      rw [run_of_ok read, EStateM.adaptExcept]
      cases executed : access.execute body scope state with
      | ok content middle => simp [executed]
      | error fault middle =>
          constructor
          · rintro ⟨⟩
            exact Or.inr ⟨body, fault, rfl, rfl, executed⟩
          · rintro (⟨_, ⟨⟩, _⟩ | ⟨_, _, same, rfl, raised⟩)
            obtain rfl := Except.ok.inj same
            rw [executed] at raised
            cases raised
            rfl

end Access

end Hostcall
