import Hostcall.Demo
import Hostcall.Proofs.Evaluation.Account
import Hostcall.Proofs.Tree.Position
import Mathlib.Control.Monad.Basic

/-!
# What a program sees of its scope

A program looks names up in its scope only where they stand in the position of
the scope: as statements, and as arguments of calls that stand there.  What is
accessed on a name, and the arguments in there, never fall back to the scope.
So a program cannot tell two scopes apart that agree on the names in those
positions, whatever else they hold.

This takes a host in which nothing leads to the scope but the program itself.
Then everything that a program is handed avoids the scope, and this is carried
through the tree: either a node is evaluated in the scope, and only the names
in its position are looked up there, or it is evaluated in a value that is not
the scope and does not lead to it.
-/

namespace Hostcall

variable {State Fault Ref Entry Others View Content Result : Type}

/-! ## The names in the position of the scope -/

namespace Node

/-- The names that a node itself looks up in its scope, its arguments and properties apart. -/
def ownNames : Node → List String
  | .identifier name _ => [name]
  | .call first chained => (first :: chained).filterMap Link.name
  | _ => []

/-- The names that a program looks up in its own scope. -/
def heads (body : List Node) : List String :=
  (rootPositions body).flatMap ownNames

end Node

/-! ## Computations that cannot tell states apart -/

/-- The outcomes are the same up to states that are alike, and what is returned is as said. -/
inductive OutcomesAlike (Alike : State → State → Prop) (Returned : Content → Prop) :
    EStateM.Result Fault State Content → EStateM.Result Fault State Content → Prop where
  | ok {content after after'}
      (returned : Returned content)
      (alike : Alike after after') :
      OutcomesAlike Alike Returned (.ok content after) (.ok content after')
  | error {fault after after'}
      (alike : Alike after after') :
      OutcomesAlike Alike Returned (.error fault after) (.error fault after')

/-- In states that are alike the computation does the same, and leaves states that are alike. -/
def Oblivious
    (Alike : State → State → Prop)
    (Returned : Content → Prop)
    (computation : EStateM Fault State Content) :
    Prop :=
  ∀ state state', Alike state state' →
    OutcomesAlike Alike Returned (computation state) (computation state')

namespace Oblivious

variable
  {Alike : State → State → Prop}
  {Returned : Content → Prop}
  {Returned' : Result → Prop}

theorem pure
    {content : Content}
    (returned : Returned content) :
    Oblivious Alike Returned (Pure.pure content : EStateM Fault State Content) :=
  fun _ _ alike => .ok returned alike

theorem bind
    {first : EStateM Fault State Content}
    {next : Content → EStateM Fault State Result}
    (before : Oblivious Alike Returned first)
    (after : ∀ content, Returned content → Oblivious Alike Returned' (next content)) :
    Oblivious Alike Returned' (first >>= next) := by
  intro state state' alike
  have met := before state state' alike
  simp only [Bind.bind, EStateM.bind]
  generalize first state = outcome, first state' = outcome' at met
  cases met with
  | ok returned alike => exact after _ returned _ _ alike
  | error alike => exact .error alike

end Oblivious

/-! ## Values that avoid the scope -/

/-- The value is the object, or a list that holds it. -/
inductive Value.Holds (ref : Ref) : Value Ref → Prop where
  | object : Holds ref (.object ref)
  | item {items item}
      (member : item ∈ items)
      (inside : Holds ref item) :
      Holds ref (.list items)

def Value.Avoids (ref : Ref) (value : Value Ref) : Prop :=
  ¬value.Holds ref

@[simp]
theorem Value.avoids_null
    (ref : Ref) :
    Value.Avoids ref .null := by
  rintro ⟨⟩

@[simp]
theorem Value.avoids_text
    (ref : Ref)
    (value : String) :
    Value.Avoids ref (.text value) := by
  rintro ⟨⟩

@[simp]
theorem Value.avoids_object_iff
    {ref other : Ref} :
    Value.Avoids ref (.object other) ↔ other ≠ ref := by
  constructor
  · rintro avoids rfl
    exact avoids .object
  · rintro apart ⟨⟩
    exact apart rfl

/-! ## Evaluation without the scope at hand -/

/-- Looking the name up there concerns the scope in nothing but the given names. -/
def Permitted (root : Ref) (names : List String) (container : Value Ref) (name : String) : Prop :=
  container.Avoids root ∨ container = .object root ∧ name ∈ names

/-- Lookups and calls are oblivious where they are permitted, and hand out what avoids the root. -/
structure Access.Shields
    (access : Access State Fault Ref)
    (root : Ref)
    (names : List String)
    (Alike : State → State → Prop) :
    Prop where
  lookup : ∀ {container name}, Permitted root names container name →
    Oblivious Alike (Value.Avoids root) (access.lookup container name)
  invoke : ∀ {callee arguments}, callee.Avoids root →
    (∀ argument ∈ arguments, argument.Avoids root) →
      Oblivious Alike (Value.Avoids root) (access.invoke callee arguments)

namespace Access.Shields

variable
  {access : Access State Fault Ref}
  {root : Ref}
  {names : List String}
  {Alike : State → State → Prop}

mutual

theorem evaluate
    (shields : access.Shields root names Alike)
    (node : Node)
    {scope invoked : Value Ref}
    (permitted : ∀ peer ∈ node.peers, ∀ name ∈ peer.ownNames, Permitted root names scope name)
    (avoids : invoked.Avoids root) :
    Oblivious Alike (Value.Avoids root) (access.evaluate node scope invoked) := by
  cases node with
  | text value =>
      rw [Access.evaluate]
      exact .pure (Value.avoids_text root value)
  | identifier name property =>
      have looked := shields.lookup (permitted _ List.mem_cons_self name List.mem_cons_self)
      by_cases absent : property = .absent
      · subst absent
        rw [Access.evaluate_name]
        exact looked
      · rw [Access.evaluate_access absent]
        refine looked.bind fun found avoidsFound => ?_
        exact shields.evaluate property (fun _ _ _ _ => Or.inl avoidsFound)
          (Value.avoids_null root)
  | call first chained =>
      rcases List.forall_mem_cons.mp permitted with ⟨own, inside⟩
      rcases List.forall_mem_append.mp inside with ⟨front, behind⟩
      have named : ∀ link ∈ first :: chained, ∀ name ∈ link.name,
          Permitted root names scope name := by
        intro link member name linkName
        exact own name (List.mem_filterMap.mpr ⟨link, member, linkName⟩)
      rcases List.forall_mem_cons.mp named with ⟨firstName, chainedNames⟩
      rw [Access.evaluate]
      refine (shields.evaluateLink first firstName front avoids).bind fun returned avoids => ?_
      refine (shields.evaluateLinks chained chainedNames behind avoids).bind fun _ _ => ?_
      exact .pure (Value.avoids_null root)
  | program | absent | foreign =>
      rw [Access.evaluate]
      exact .pure (Value.avoids_null root)

theorem evaluateAll
    (shields : access.Shields root names Alike)
    (nodes : List Node)
    {scope : Value Ref}
    (permitted : ∀ peer ∈ Node.nodesPeers nodes, ∀ name ∈ peer.ownNames,
      Permitted root names scope name) :
    Oblivious Alike (fun values => ∀ value ∈ values, value.Avoids root)
      (access.evaluateAll nodes scope) := by
  cases nodes with
  | nil =>
      rw [Access.evaluateAll]
      exact .pure (by simp)
  | cons node others =>
      rw [Access.evaluateAll]
      rcases List.forall_mem_append.mp permitted with ⟨own, behind⟩
      refine (shields.evaluate node own (Value.avoids_null root)).bind fun value avoids => ?_
      refine (shields.evaluateAll others behind).bind fun values avoidsAll => ?_
      exact .pure (List.forall_mem_cons.mpr ⟨avoids, avoidsAll⟩)

theorem evaluateLink
    (shields : access.Shields root names Alike)
    (link : Link Node)
    {scope invoked : Value Ref}
    (named : ∀ name ∈ link.name, Permitted root names scope name)
    (permitted : ∀ peer ∈ Node.linkPeers link, ∀ name ∈ peer.ownNames,
      Permitted root names scope name)
    (avoids : invoked.Avoids root) :
    Oblivious Alike (Value.Avoids root) (access.evaluateLink link scope invoked) := by
  cases link with
  | mk name params =>
      rw [Access.evaluateLink]
      refine (shields.evaluateAll params permitted).bind fun arguments avoidAll => ?_
      cases name with
      | none => exact shields.invoke avoids avoidAll
      | some name =>
          refine (shields.lookup (named name rfl)).bind fun callee avoidsCallee => ?_
          exact shields.invoke avoidsCallee avoidAll

theorem evaluateLinks
    (shields : access.Shields root names Alike)
    (links : List (Link Node))
    {scope invoked : Value Ref}
    (named : ∀ link ∈ links, ∀ name ∈ link.name, Permitted root names scope name)
    (permitted : ∀ peer ∈ Node.linksPeers links, ∀ name ∈ peer.ownNames,
      Permitted root names scope name)
    (avoids : invoked.Avoids root) :
    Oblivious Alike (fun _ => True) (access.evaluateLinks links scope invoked) := by
  cases links with
  | nil =>
      rw [Access.evaluateLinks]
      exact .pure trivial
  | cons link others =>
      rw [Access.evaluateLinks]
      rcases List.forall_mem_cons.mp named with ⟨ownName, namesBehind⟩
      rcases List.forall_mem_append.mp permitted with ⟨own, behind⟩
      refine (shields.evaluateLink link ownName own avoids).bind fun returned avoids => ?_
      exact shields.evaluateLinks others namesBehind behind avoids

end

theorem execute
    (shields : access.Shields root names Alike)
    (body : List Node)
    {scope : Value Ref}
    (permitted : ∀ peer ∈ Node.nodesPeers body, ∀ name ∈ peer.ownNames,
      Permitted root names scope name) :
    Oblivious Alike (fun _ => True) (access.execute body scope) := by
  induction body with
  | nil => exact .pure trivial
  | cons node others inductionHypothesis =>
      rcases List.forall_mem_append.mp permitted with ⟨own, behind⟩
      refine (shields.evaluate node own (Value.avoids_null root)).bind fun _ _ => ?_
      exact inductionHypothesis behind

end Access.Shields

/-! ## Hosts with a scope that is set apart -/

/-- How the scope of programs is set apart from everything else in the states of a host. -/
structure Seclusion (State Ref Entry Others : Type) where
  /-- The scope. -/
  root : Ref
  /-- What the scope has under a name, if anything. -/
  entry : State → String → Entry
  /-- The state of everything else. -/
  others : State → Others
  /-- Nothing else leads to the scope. -/
  Closed : State → Prop

namespace Seclusion

variable (seclusion : Seclusion State Ref Entry Others)

/-- What is seen of an outcome apart from the scope. -/
def seen : EStateM.Result Fault State Content → Except Fault Content × Others
  | .ok content after => (.ok content, seclusion.others after)
  | .error fault after => (.error fault, seclusion.others after)

/-- What is seen of a trace apart from the scope. -/
def seenTrace (trace : Trace State Ref) : List (Act Ref × Others) :=
  trace.map fun event => (event.act, seclusion.others event.state)

/--
The computation hands out nothing that leads to the scope, leaves the scope as
it is, and does what the view of the state decides.
-/
structure Keeps
    (view : State → View)
    (computation : EStateM Fault State (Value Ref)) :
    Prop where
  keeps : ∀ state, seclusion.Closed state →
    match computation state with
    | .ok value after =>
        value.Avoids seclusion.root ∧ seclusion.Closed after ∧
          seclusion.entry after = seclusion.entry state
    | .error _ after =>
        seclusion.Closed after ∧ seclusion.entry after = seclusion.entry state
  decided : ∀ state state', seclusion.Closed state → seclusion.Closed state' →
    view state = view state' →
      seclusion.seen (computation state) = seclusion.seen (computation state')

/-- The states differ at most in what the scope has under other names. -/
structure Alike (names : List String) (state state' : State) : Prop where
  closed : seclusion.Closed state
  closed' : seclusion.Closed state'
  others : seclusion.others state = seclusion.others state'
  entries : ∀ name ∈ names, seclusion.entry state name = seclusion.entry state' name

end Seclusion

/--
In the host nothing leads to the scope, nothing changes it, and nothing depends
on it, except that a program may look the given names up in it.
-/
structure Host.Secludes
    (host : Host State Fault Ref)
    (seclusion : Seclusion State Ref Entry Others)
    (names : List String) :
    Prop where
  scope : ∀ name ∈ names,
    seclusion.Keeps (fun state => (seclusion.others state, seclusion.entry state name))
      (host.get seclusion.root name)
  get : ∀ ref name, ref ≠ seclusion.root → seclusion.Keeps seclusion.others (host.get ref name)
  call : ∀ callee arguments, callee ≠ seclusion.root →
    (∀ argument ∈ arguments, argument.Avoids seclusion.root) →
      seclusion.Keeps seclusion.others (host.call callee arguments)

namespace Seclusion

variable {seclusion : Seclusion State Ref Entry Others} {names : List String}

/-- States stay alike as long as the scope stays as it is. -/
theorem Alike.onward
    {state state' after after' : State}
    (alike : seclusion.Alike names state state')
    (kept : seclusion.Closed after ∧ seclusion.entry after = seclusion.entry state)
    (kept' : seclusion.Closed after' ∧ seclusion.entry after' = seclusion.entry state')
    (others : seclusion.others after = seclusion.others after') :
    seclusion.Alike names after after' where
  closed := kept.1
  closed' := kept'.1
  others := others
  entries := by
    rw [kept.2, kept'.2]
    exact alike.entries

theorem Keeps.oblivious
    {view : State → View}
    {computation : EStateM Fault State (Value Ref)}
    (keeps : seclusion.Keeps view computation)
    (shown : ∀ state state', seclusion.Alike names state state' → view state = view state') :
    Oblivious (seclusion.Alike names) (Value.Avoids seclusion.root) computation := by
  intro state state' alike
  have own := keeps.keeps state alike.closed
  have own' := keeps.keeps state' alike.closed'
  have same := keeps.decided state state' alike.closed alike.closed' (shown state state' alike)
  generalize computation state = outcome, computation state' = outcome' at own own' same
  cases outcome with
  | ok value after =>
      cases outcome' with
      | ok value' after' =>
          simp only [seen, Prod.mk.injEq, Except.ok.injEq] at same
          obtain ⟨rfl, others⟩ := same
          exact .ok own.1 (alike.onward own.2 own'.2 others)
      | error fault' after' => simp [seen] at same
  | error fault after =>
      cases outcome' with
      | ok value' after' => simp [seen] at same
      | error fault' after' =>
          simp only [seen, Prod.mk.injEq, Except.error.injEq] at same
          obtain ⟨rfl, others⟩ := same
          exact .error (alike.onward own own' others)

/-- States with the traces that led to them, which look the same apart from the scope. -/
def AlikeTraced
    (seclusion : Seclusion State Ref Entry Others)
    (names : List String)
    (start start' : State × Trace State Ref) :
    Prop :=
  seclusion.Alike names start.1 start'.1 ∧
    seclusion.seenTrace start.2 = seclusion.seenTrace start'.2

/-- An act is noted with what is seen of the state. -/
theorem oblivious_note
    {host : Host State Fault Ref}
    {act : Act Ref}
    {Returned : Value Ref → Prop}
    (performs : Oblivious (seclusion.Alike names) Returned (host.perform act)) :
    Oblivious (seclusion.AlikeTraced names) Returned (host.note act) := by
  rintro ⟨state, past⟩ ⟨state', past'⟩ ⟨alike, seenPast⟩
  have met := performs state state' alike
  have seenOnward : seclusion.seenTrace (past ++ [⟨act, state⟩]) =
      seclusion.seenTrace (past' ++ [⟨act, state'⟩]) := by
    simp only [seenTrace] at seenPast
    simp [seenTrace, seenPast, alike.others]
  simp only [Host.note]
  generalize host.perform act state = outcome, host.perform act state' = outcome' at met
  cases met with
  | ok returned onward => exact .ok returned ⟨onward, seenOnward⟩
  | error onward => exact .error ⟨onward, seenOnward⟩

end Seclusion

/-- What is alike in outcomes with their traces is what is seen of both. -/
theorem Seclusion.seen_of_traced
    {seclusion : Seclusion State Ref Entry Others}
    {names : List String}
    {Returned : Content → Prop}
    {outcome outcome' : EStateM.Result Fault State Content}
    {trace trace' : Trace State Ref}
    (met : OutcomesAlike (seclusion.AlikeTraced names) Returned
      (traced outcome trace) (traced outcome' trace')) :
    seclusion.seen outcome = seclusion.seen outcome' ∧
      seclusion.seenTrace trace = seclusion.seenTrace trace' := by
  cases outcome with
  | ok content after =>
      cases outcome' with
      | ok content' after' =>
          cases met with
          | ok _ alike => exact ⟨congrArg (Prod.mk (Except.ok content)) alike.1.others, alike.2⟩
      | error fault' after' => cases met
  | error fault after =>
      cases outcome' with
      | ok content' after' => cases met
      | error fault' after' =>
          cases met with
          | error alike => exact ⟨congrArg (Prod.mk (Except.error fault)) alike.1.others, alike.2⟩

theorem HostObjects.oblivious_missingAsNull
    {objects : HostObjects State Fault Ref}
    {Alike : State → State → Prop}
    {root : Ref}
    {found : EStateM Fault State (Value Ref)}
    (oblivious : Oblivious Alike (Value.Avoids root) found) :
    Oblivious Alike (Value.Avoids root) (objects.missingAsNull found) := by
  intro state state' alike
  have met := oblivious state state' alike
  simp only [missingAsNull]
  generalize found state = outcome, found state' = outcome' at met
  cases met with
  | ok returned onward => exact .ok returned onward
  | error onward =>
      dsimp only
      split
      · exact .ok (Value.avoids_null root) onward
      · exact .error onward

namespace Host.Secludes

variable
  {host : Host State Fault Ref}
  {seclusion : Seclusion State Ref Entry Others}
  {names : List String}

theorem lookup
    (secludes : host.Secludes seclusion names)
    {container : Value Ref}
    {name : String}
    (permitted : Permitted seclusion.root names container name) :
    Oblivious (seclusion.Alike names) (Value.Avoids seclusion.root)
      (host.lookup container name) := by
  cases container with
  | object ref =>
      have get : Oblivious (seclusion.Alike names) (Value.Avoids seclusion.root)
          (host.get ref name) := by
        rcases permitted with avoids | ⟨same, listed⟩
        · have apart := secludes.get ref name (Value.avoids_object_iff.mp avoids)
          exact apart.oblivious fun _ _ alike => alike.others
        · obtain rfl := Value.object.inj same
          refine (secludes.scope name listed).oblivious fun _ _ alike => ?_
          exact Prod.ext alike.others (alike.entries name listed)
      simp only [HostObjects.lookup]
      split
      · exact get
      · exact HostObjects.oblivious_missingAsNull get
  | null | bool | int | text | list => exact .pure (Value.avoids_null _)

/-- Tracing included, a program is kept from what the scope has under other names. -/
theorem shields
    (secludes : host.Secludes seclusion names) :
    host.tracing.Shields seclusion.root names (seclusion.AlikeTraced names) where
  lookup permitted := Seclusion.oblivious_note (secludes.lookup permitted)
  invoke {callee arguments} avoids avoidAll := by
    cases callee with
    | object ref =>
        simp only [tracing]
        split
        · have apart := secludes.call ref arguments (Value.avoids_object_iff.mp avoids) avoidAll
          exact Seclusion.oblivious_note (apart.oblivious fun _ _ alike => alike.others)
        · exact .pure (Value.avoids_null _)
    | null | bool | int | text | list => exact .pure (Value.avoids_null _)

end Host.Secludes

/--
A program depends on its scope through its heads alone.  If the scope has the
same under these names in two states that are otherwise the same, then from
both the program does the same acts, in states that are the same apart from the
scope, and it ends in the same way: with the same error, if there is one, and
in states that are the same apart from the scope.
-/
theorem execute_confined
    {host : Host State Fault Ref}
    {seclusion : Seclusion State Ref Entry Others}
    {body : List Node}
    (secludes : host.Secludes seclusion (Node.heads body))
    {state state' : State}
    (closed : seclusion.Closed state)
    (closed' : seclusion.Closed state')
    (others : seclusion.others state = seclusion.others state')
    (agree : ∀ name ∈ Node.heads body, seclusion.entry state name = seclusion.entry state' name) :
    seclusion.seen (host.access.execute body (.object seclusion.root) state) =
        seclusion.seen (host.access.execute body (.object seclusion.root) state') ∧
      seclusion.seenTrace (host.executionTrace body (.object seclusion.root) state) =
        seclusion.seenTrace (host.executionTrace body (.object seclusion.root) state') := by
  have permitted : ∀ peer ∈ Node.nodesPeers body, ∀ name ∈ peer.ownNames,
      Permitted seclusion.root (Node.heads body) (.object seclusion.root) name := by
    intro peer member name own
    exact Or.inr ⟨rfl, List.mem_flatMap.mpr ⟨peer, member, own⟩⟩
  have alike : seclusion.AlikeTraced (Node.heads body) (state, []) (state', []) :=
    ⟨⟨closed, closed', others, agree⟩, rfl⟩
  have met := secludes.shields.execute body permitted _ _ alike
  rw [host.takes_execute, host.takes_execute] at met
  exact Seclusion.seen_of_traced met

/-! ## Two scopes -/

namespace Demo

/-- The entries of a scope, and the lines put out. -/
abbrev Furnished := List (String × Value Object) × List (List (Value Object))

/-- The demonstration host with a scope that holds what the state says. -/
def furnishedHost : Host Furnished UnwantedArguments Object :=
  let plain := host fun line state => (state.1, state.2 ++ [line])
  { plain with
    get
      | .root, name => fun state => .ok ((state.1.lookup name).getD .null) state
      | object, name => pure (part object name) }

/-- The entries of the scope apart from the lines put out; no entry leads back to the scope. -/
def furnishing :
    Seclusion Furnished Object (Option (Value Object)) (List (List (Value Object))) where
  root := .root
  entry state name := state.1.lookup name
  others state := state.2
  Closed state := ∀ entry ∈ state.1, entry.2.Avoids .root

theorem furnishing_keeps_of_ok
    {computation : EStateM UnwantedArguments Furnished (Value Object)}
    {value : Value Object}
    (lines : List (List (Value Object)))
    (returns : ∀ state, computation state = .ok value (state.1, state.2 ++ lines))
    (avoids : value.Avoids .root) :
    furnishing.Keeps furnishing.others computation where
  keeps state closed := by
    rw [returns]
    exact ⟨avoids, closed, rfl⟩
  decided state state' _ _ (same : state.2 = state'.2) := by
    simp [returns, Seclusion.seen, furnishing, same]

theorem furnishing_keeps_of_error
    {computation : EStateM UnwantedArguments Furnished (Value Object)}
    {fault : UnwantedArguments}
    (raises : ∀ state, computation state = .error fault state) :
    furnishing.Keeps furnishing.others computation where
  keeps state closed := by
    rw [raises]
    exact ⟨closed, rfl⟩
  decided state state' _ _ (same : state.2 = state'.2) := by
    simp [raises, Seclusion.seen, furnishing, same]

/-- The scope is the only object that has the entries, and no function returns it. -/
theorem furnishedHost_secludes
    (names : List String) :
    furnishedHost.Secludes furnishing names where
  scope name _ := by
    have looked (state : Furnished) : furnishedHost.get furnishing.root name state =
        .ok ((state.1.lookup name).getD .null) state := rfl
    constructor
    · intro state closed
      rw [looked]
      refine ⟨?_, closed, rfl⟩
      cases found : state.1.lookup name with
      | none => exact Value.avoids_null _
      | some value =>
          rcases List.lookup_eq_some_iff.mp found with ⟨front, behind, entries, _⟩
          exact closed (name, value) (by simp [entries])
    · intro state state' _ _ same
      obtain ⟨others, entry⟩ := Prod.mk.inj same
      have entry : state.1.lookup name = state'.1.lookup name := entry
      rw [looked, looked, entry]
      exact congrArg (Prod.mk _) others
  get ref name apart := by
    have avoids : (part ref name).Avoids .root := by
      cases ref with
      | root => exact absurd rfl apart
      | console => unfold part; split <;> simp_all
      | log | testLog | secondCall | thirdCall => exact Value.avoids_null _
    refine furnishing_keeps_of_ok [] (fun state => ?_) avoids
    rw [List.append_nil]
    cases ref with
    | root => exact absurd rfl apart
    | console | log | testLog | secondCall | thirdCall => rfl
  call callee arguments apart _ := by
    cases callee with
    | root => exact absurd rfl apart
    | console =>
        refine furnishing_keeps_of_ok [] (fun state => ?_) (Value.avoids_null _)
        rw [List.append_nil]
        rfl
    | log =>
        refine furnishing_keeps_of_ok [arguments, [.text "log finished"]] (fun state => ?_)
          (Value.avoids_object_iff.mpr (by decide : Object.secondCall ≠ .root))
        rw [List.append_cons]
        rfl
    | testLog =>
        exact furnishing_keeps_of_ok [arguments] (fun _ => rfl) (Value.avoids_null _)
    | secondCall =>
        cases arguments with
        | nil =>
            exact furnishing_keeps_of_ok [[.text _]] (fun _ => rfl)
              (Value.avoids_object_iff.mpr (by decide : Object.thirdCall ≠ .root))
        | cons argument others => exact furnishing_keeps_of_error fun _ => rfl
    | thirdCall =>
        cases arguments with
        | nil => exact furnishing_keeps_of_ok [[.text _]] (fun _ => rfl) (Value.avoids_null _)
        | cons argument others => exact furnishing_keeps_of_error fun _ => rfl

/-- The name behind the second call is looked up in the namespace object, not in the scope. -/
def nestedSource : String := "testLog(\"a\" unknown) myConsole.log(globalValue)(globalValue) x"

def nestedBody : List Node :=
  [.call ⟨some "testLog", [.text "a", .identifier "unknown" .absent]⟩ [],
    .identifier "myConsole"
      (.call ⟨some "log", [.identifier "globalValue" .absent]⟩
        [⟨none, [.identifier "globalValue" .absent]⟩]),
    .identifier "x" .absent]

/-- Scopes that agree on what the program looks up in them, in another order and with more. -/
def usualScope : Furnished :=
  ([("myConsole", .object .console), ("testLog", .object .testLog),
    ("globalValue", .text "==> hello word4")], [])

def otherScope : Furnished :=
  ([("log", .object .thirdCall), ("testLog", .object .testLog), ("globalValue", .null),
    ("myConsole", .object .console)], [])

/-- Both runs end at the refused call, with the same acts and the same lines put out. -/
theorem execute_confined_nested :
    readSource nestedSource = .ok nestedBody ∧
      Node.heads nestedBody = ["testLog", "unknown", "myConsole", "x"] ∧
      furnishing.seen (furnishedHost.access.execute nestedBody (.object .root) usualScope) =
        furnishing.seen (furnishedHost.access.execute nestedBody (.object .root) otherScope) ∧
      furnishing.seenTrace (furnishedHost.executionTrace nestedBody (.object .root) usualScope) =
        furnishing.seenTrace
          (furnishedHost.executionTrace nestedBody (.object .root) otherScope) ∧
      furnishing.seen (furnishedHost.access.execute nestedBody (.object .root) usualScope) =
        (.error ⟨"second_call", 1⟩,
          [[.text "a", .null], [.null], [.text "log finished"]]) := by
  have heads : Node.heads nestedBody = ["testLog", "unknown", "myConsole", "x"] := by decide
  have closed : furnishing.Closed usualScope := by
    simp only [furnishing, usualScope, List.forall_mem_cons]
    simp
  have closed' : furnishing.Closed otherScope := by
    simp only [furnishing, otherScope, List.forall_mem_cons]
    simp
  have agree : ∀ name ∈ Node.heads nestedBody,
      furnishing.entry usualScope name = furnishing.entry otherScope name := by
    rw [heads]
    simp [furnishing, usualScope, otherScope, List.lookup_cons]
  obtain ⟨outcomes, traces⟩ :=
    execute_confined (furnishedHost_secludes _) closed closed' rfl agree
  exact ⟨by decide +kernel, heads, outcomes, traces, by decide +kernel⟩

end Demo

end Hostcall
