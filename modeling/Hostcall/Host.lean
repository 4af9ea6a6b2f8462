import Hostcall.Value

/-!
# Hosts

A host owns the objects that a program can look into and call.  Looking into
an object and calling it may change the state of the host and may raise.  The
two shapes of objects differ in one point: a record says that it lacks an
attribute by raising, and such an error is answered with null, while every
error of a mapping is raised.

A host is given by functions on its state, so its callables may do anything,
running programs included.
-/

namespace Hostcall

/-- What computations end with can be compared. -/
instance decidableEqResult
    {Fault State Content : Type}
    [DecidableEq Fault]
    [DecidableEq State]
    [DecidableEq Content] :
    DecidableEq (EStateM.Result Fault State Content)
  | .ok value after, .ok value' after' =>
      decidable_of_iff (value = value' ∧ after = after') (by simp)
  | .error fault after, .error fault' after' =>
      decidable_of_iff (fault = fault' ∧ after = after') (by simp)
  | .ok _ _, .error _ _ => isFalse nofun
  | .error _ _, .ok _ _ => isFalse nofun

/-- How the parts of an object are named. -/
inductive Shape where
  /-- By keys: a lookup raises whatever the object raises. -/
  | mapping
  /-- By attributes: an error that reports a missing attribute reads as null. -/
  | record
deriving DecidableEq, Repr

/-- The objects of a host as seen by lookups. -/
structure HostObjects (State Fault Ref : Type) where
  /-- How the parts of an object are named. -/
  shape : Ref → Shape
  /-- What an object has under a name. -/
  get : Ref → String → EStateM Fault State (Value Ref)
  /-- The errors by which a record reports a missing attribute. -/
  reportsMissing : Fault → Bool
  /-- The objects that can be called. -/
  callable : Ref → Bool

/-- A host: its objects, and what their calls do. -/
structure Host (State Fault Ref : Type) extends HostObjects State Fault Ref where
  /-- What calling an object does and returns. -/
  call : Ref → List (Value Ref) → EStateM Fault State (Value Ref)

variable {State Fault Ref : Type}

/-- Turn the errors that report a missing attribute into null and keep all others. -/
def HostObjects.missingAsNull
    (objects : HostObjects State Fault Ref)
    (found : EStateM Fault State (Value Ref)) :
    EStateM Fault State (Value Ref) :=
  fun state =>
    match found state with
    | .ok value after => .ok value after
    | .error fault after =>
        if objects.reportsMissing fault then .ok .null after else .error fault after

/--
What a value has under a name.  Only objects have anything, and only they are
asked; every other value has null under every name.
-/
def HostObjects.lookup
    (objects : HostObjects State Fault Ref) :
    Value Ref → String → EStateM Fault State (Value Ref)
  | .object ref, name =>
      match objects.shape ref with
      | .mapping => objects.get ref name
      | .record => objects.missingAsNull (objects.get ref name)
  | _, _ => pure .null

theorem HostObjects.lookup_of_missing
    {objects : HostObjects State Fault Ref}
    {ref : Ref}
    {name : String}
    {state after : State}
    {fault : Fault}
    (record : objects.shape ref = .record)
    (reported : objects.get ref name state = .error fault after)
    (missing : objects.reportsMissing fault = true) :
    objects.lookup (.object ref) name state = .ok .null after := by
  simp [lookup, missingAsNull, record, reported, missing]

/-- Call a value.  What cannot be called is not touched, and null is returned for it. -/
def Host.invoke
    (host : Host State Fault Ref) :
    Value Ref → List (Value Ref) → EStateM Fault State (Value Ref)
  | .object ref, arguments =>
      if host.callable ref then host.call ref arguments else pure .null
  | _, _ => pure .null

/--
All that a program can do with values that it does not know: look a name up in
one, and call one with arguments.
-/
structure Access (State Fault Ref : Type) where
  lookup : Value Ref → String → EStateM Fault State (Value Ref)
  invoke : Value Ref → List (Value Ref) → EStateM Fault State (Value Ref)

/-- What a program can do with the values of a host. -/
def Host.access (host : Host State Fault Ref) : Access State Fault Ref where
  lookup := host.lookup
  invoke := host.invoke

theorem Host.access_invoke_of_callable
    {host : Host State Fault Ref}
    {ref : Ref}
    (callable : host.callable ref = true)
    (arguments : List (Value Ref)) :
    host.access.invoke (.object ref) arguments = host.call ref arguments := by
  change host.invoke (.object ref) arguments = _
  rw [invoke, if_pos callable]

theorem Host.access_invoke_of_not_callable
    {host : Host State Fault Ref}
    {callee : Value Ref}
    (notCallable : ∀ ref, callee = .object ref → host.callable ref = false)
    (arguments : List (Value Ref)) :
    host.access.invoke callee arguments = pure .null := by
  cases callee with
  | object ref =>
      change host.invoke (.object ref) arguments = _
      rw [invoke, if_neg (by simp [notCallable ref rfl])]
  | null | bool | int | text | list => rfl

end Hostcall
