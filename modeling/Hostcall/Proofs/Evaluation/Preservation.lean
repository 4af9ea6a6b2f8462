import Hostcall.Proofs.Evaluation.Account
import Hostcall.Sandbox.Calling

/-!
# What objects hold

A program has no means of its own to change anything: it looks names up and
calls objects.  So the state in which a program ends is the work of its acts,
each of which begins where the one before it ended.  If lookups only show what
objects hold, then every change of what one holds is made during a call that
the trace lists.

A callable that does not change anything itself may still run programs.  What
they do is again made of lookups and calls, one level of nesting below, so by
induction on the depth nothing is changed there either.  Then all objects hold
what they held, however a program ends.
-/

namespace Hostcall

variable {State Fault Ref Held Content Result : Type}

/-! ## States that are left -/

/-- The state in which a computation ends, whether it returns or raises. -/
def finalState : EStateM.Result Fault State Content → State
  | .ok _ after => after
  | .error _ after => after

theorem finalState_traced
    (outcome : EStateM.Result Fault State Content)
    (trace : Trace State Ref) :
    finalState (traced outcome trace) = (finalState outcome, trace) := by
  cases outcome <;> rfl

theorem finalState_adaptExcept
    {Fault' : Type}
    (adapt : Fault → Fault')
    (computation : EStateM Fault State Content)
    (state : State) :
    finalState (computation.adaptExcept adapt state) = finalState (computation state) := by
  simp only [EStateM.adaptExcept]
  cases computation state <;> rfl

/--
Whatever an object held it holds still.  Of objects that are new nothing is
said.
-/
def Preserves (held : State → Ref → Option Held) (state after : State) : Prop :=
  ∀ ref parts, held state ref = some parts → held after ref = some parts

namespace Preserves

variable {held : State → Ref → Option Held} {state middle after : State}

theorem refl
    (state : State) :
    Preserves held state state := by
  intro ref parts holds
  exact holds

theorem trans
    (first : Preserves held state middle)
    (second : Preserves held middle after) :
    Preserves held state after := by
  intro ref parts holds
  exact second ref parts (first ref parts holds)

end Preserves

/-! ## Lookups -/

namespace HostObjects

variable {objects : HostObjects State Fault Ref} {held : State → Ref → Option Held}

/-- A lookup leaves the state as it is, or as the object leaves it that is looked into. -/
theorem finalState_lookup
    (container : Value Ref)
    (name : String)
    (state : State) :
    finalState (objects.lookup container name state) = state ∨
      ∃ ref, finalState (objects.lookup container name state) =
        finalState (objects.get ref name state) := by
  cases container with
  | object ref =>
      refine Or.inr ⟨ref, ?_⟩
      cases shape : objects.shape ref with
      | mapping => simp only [lookup, shape]
      | record =>
          simp only [lookup, shape, missingAsNull]
          cases objects.get ref name state with
          | ok value after => rfl
          | error fault after =>
              dsimp only
              split <;> rfl
  | null | bool | int | text | list => exact Or.inl rfl

/-- Looking into an object changes nothing that objects hold. -/
def OnlyShows
    (objects : HostObjects State Fault Ref)
    (held : State → Ref → Option Held) :
    Prop :=
  ∀ ref name state, Preserves held state (finalState (objects.get ref name state))

theorem OnlyShows.lookup
    (onlyShows : objects.OnlyShows held)
    (container : Value Ref)
    (name : String)
    (state : State) :
    Preserves held state (finalState (objects.lookup container name state)) := by
  rcases finalState_lookup container name state with same | ⟨ref, same⟩
  · rw [same]
    exact .refl state
  · rw [same]
    exact onlyShows ref name state

end HostObjects

/-! ## One act after another -/

namespace Host

/--
Every act of the trace is done in the state that the acts before it left, and
the last one leaves the last state: nothing happens between them.
-/
inductive Threads (host : Host State Fault Ref) : State → Trace State Ref → State → Prop where
  | nothing {state} :
      Threads host state [] state
  | act {act state others after}
      (onward : Threads host (finalState (host.perform act state)) others after) :
      Threads host state (⟨act, state⟩ :: others) after

theorem Threads.append
    {host : Host State Fault Ref}
    {state middle after : State}
    {trace others : Trace State Ref}
    (first : host.Threads state trace middle)
    (second : host.Threads middle others after) :
    host.Threads state (trace ++ others) after := by
  induction first with
  | nothing => exact second
  | act _ inductionHypothesis => exact .act (inductionHypothesis second)

/-- A traced computation changes the state by the acts that it notes, and by nothing else. -/
def ActsOnly
    (host : Host State Fault Ref)
    (computation : EStateM Fault (State × Trace State Ref) Content) :
    Prop :=
  ∀ state past, ∃ trace after,
    finalState (computation (state, past)) = (after, past ++ trace) ∧
      host.Threads state trace after

namespace ActsOnly

variable {host : Host State Fault Ref}

theorem pure
    (content : Content) :
    host.ActsOnly (Pure.pure content) := by
  intro state past
  exact ⟨[], state, by rw [List.append_nil]; rfl, .nothing⟩

theorem bind
    {first : EStateM Fault (State × Trace State Ref) Content}
    {next : Content → EStateM Fault (State × Trace State Ref) Result}
    (before : host.ActsOnly first)
    (after : ∀ content, host.ActsOnly (next content)) :
    host.ActsOnly (first >>= next) := by
  intro state past
  rcases before state past with ⟨trace, middle, ended, threads⟩
  simp only [Bind.bind, EStateM.bind]
  cases returned : first (state, past) with
  | ok content start =>
      rw [returned] at ended
      obtain rfl : start = (middle, past ++ trace) := ended
      rcases after content middle (past ++ trace) with ⟨others, finish, left, behind⟩
      exact ⟨trace ++ others, finish, by rw [← List.append_assoc]; exact left,
        threads.append behind⟩
  | error fault start =>
      rw [returned] at ended
      exact ⟨trace, middle, ended, threads⟩

theorem note
    (act : Act Ref) :
    host.ActsOnly (host.note act) := by
  intro state past
  exact ⟨[⟨act, state⟩], _, finalState_traced _ _, .act .nothing⟩

end ActsOnly

/-- Whatever is put together from lookups and calls changes the state by them alone. -/
theorem composes_actsOnly
    (host : Host State Fault Ref) :
    Composes (fun _ computation _ => host.ActsOnly computation) host.tracing host.tracing where
  pure := .pure
  bind := .bind
  lookup container name := .note (.lookup container name)
  invoke callee arguments := by
    cases callee with
    | object ref =>
        change host.ActsOnly (if _ then _ else _)
        split
        · exact .note (.call ref arguments)
        · exact .pure _
    | null | bool | int | text | list => exact .pure _

theorem ActsOnly.threads
    {host : Host State Fault Ref}
    {computation : EStateM Fault (State × Trace State Ref) Content}
    {state : State}
    {trace : Trace State Ref}
    {outcome : EStateM.Result Fault State Content}
    (actsOnly : host.ActsOnly computation)
    (takes : Takes computation state trace outcome) :
    host.Threads state trace (finalState outcome) := by
  rcases actsOnly state [] with ⟨noted, after, ended, threads⟩
  rw [takes, finalState_traced] at ended
  obtain ⟨rfl, rfl⟩ := Prod.mk.inj ended
  exact threads

end Host

/-! ## Requests -/

/-- What can be asked for in a scope. -/
inductive Request (Ref : Type) where
  /-- To run a source text. -/
  | run (source : String)
  /-- To execute statements. -/
  | execute (body : List Node)
  /-- To evaluate a node, with a value for a link without a name to call. -/
  | evaluate (node : Node) (invoked : Value Ref)

namespace Request

/-- The state that a request leaves behind, whether it is completed or ends in an error. -/
def leaves
    (access : Access State Fault Ref)
    (scope : Value Ref)
    (state : State) :
    Request Ref → State
  | .run source => finalState (access.run scope source state)
  | .execute body => finalState (access.execute body scope state)
  | .evaluate node invoked => finalState (access.evaluate node scope invoked state)

/-- The acts that a request leads to. -/
def trace
    (host : Host State Fault Ref)
    (scope : Value Ref)
    (state : State) :
    Request Ref → Trace State Ref
  | .run source => host.runTrace scope source state
  | .execute body => host.executionTrace body scope state
  | .evaluate node invoked => host.evaluationTrace node scope invoked state

/-- The state that a request leaves is the work of its acts. -/
theorem threads
    (host : Host State Fault Ref)
    (scope : Value Ref)
    (state : State)
    (request : Request Ref) :
    host.Threads state (request.trace host scope state)
      (request.leaves host.access scope state) := by
  have executed (body : List Node) :
      host.Threads state (host.executionTrace body scope state)
        (finalState (host.access.execute body scope state)) :=
    (host.composes_actsOnly.execute body scope).threads (host.takes_execute body scope state)
  cases request with
  | run source =>
      rw [trace, leaves]
      cases read : readSource source with
      | error error =>
          rw [Host.runTrace_of_error read, Access.run_eq_error_of_error read]
          exact .nothing
      | ok body =>
          rw [Host.runTrace_of_ok read, Access.run_of_ok read, finalState_adaptExcept]
          exact executed body
  | execute body => exact executed body
  | evaluate node invoked =>
      exact (host.composes_actsOnly.evaluate node scope invoked).threads
        (host.takes_evaluate node scope invoked state)

end Request

/-! ## Callables that change nothing -/

/-- Objects hold what they held, and the state is quiet. -/
structure Undisturbed
    (held : State → Ref → Option Held)
    (Quiet : State → Prop)
    (state after : State) :
    Prop where
  quiet : Quiet after
  preserves : Preserves held state after

/-- The callable itself changes nothing; of the runs that it starts nothing is said. -/
inductive Activity.Silent
    (held : State → Ref → Option Held)
    (Quiet : State → Prop) :
    State → Activity State Fault Ref → Prop where
  | settled {state outcome}
      (own : Undisturbed held Quiet state (finalState outcome)) :
      Silent held Quiet state (.settled outcome)
  | running {state source asked resume}
      (own : Undisturbed held Quiet state asked)
      (resumed : ∀ result, Quiet (finalState result) →
        Silent held Quiet (finalState result) (resume result)) :
      Silent held Quiet state (.running source asked resume)

variable {held : State → Ref → Option Held} {Quiet : State → Prop} {state after : State}

theorem Undisturbed.refl
    (quiet : Quiet state) :
    Undisturbed held Quiet state state :=
  ⟨quiet, .refl state⟩

theorem Undisturbed.trans
    {middle : State}
    (first : Undisturbed held Quiet state middle)
    (second : Undisturbed held Quiet middle after) :
    Undisturbed held Quiet state after :=
  ⟨second.quiet, first.preserves.trans second.preserves⟩

/-- What was done before a silent activity may be counted as its own, if it changed nothing. -/
theorem Activity.Silent.behind
    {activity : Activity State Fault Ref}
    {middle : State}
    (first : Undisturbed held Quiet state middle)
    (silent : activity.Silent held Quiet middle) :
    activity.Silent held Quiet state := by
  cases silent with
  | settled own => exact .settled (first.trans own)
  | running own resumed => exact .running (first.trans own) resumed

/-- What happens while a callable is carried out happens in the runs that it starts. -/
theorem Activity.Silent.outcome
    {activity : Activity State Fault Ref}
    {runText : String → EStateM (RunFailure Fault) State Unit}
    (runs : ∀ source asked, Quiet asked →
      Undisturbed held Quiet asked (finalState (runText source asked)))
    (silent : activity.Silent held Quiet state) :
    Undisturbed held Quiet state (finalState (activity.outcome runText)) := by
  induction silent with
  | settled own => exact own
  | @running state source asked resume own _ inductionHypothesis =>
      have ran := runs source asked own.quiet
      exact own.trans (ran.trans (inductionHypothesis _ ran.quiet))

theorem Host.Threads.undisturbed
    {host : Host State Fault Ref}
    {trace : Trace State Ref}
    (acts : ∀ act asked, Quiet asked →
      Undisturbed held Quiet asked (finalState (host.perform act asked)))
    (threads : host.Threads state trace after)
    (quiet : Quiet state) :
    Undisturbed held Quiet state after := by
  induction threads with
  | nothing => exact .refl quiet
  | @act act state others after _ inductionHypothesis =>
      have own := acts act state quiet
      exact own.trans (inductionHypothesis own.quiet)

namespace ReentrantHost

/--
In quiet states no callable changes anything itself, and neither lookups nor
what callables do themselves end the quiet.
-/
structure Silent
    (reentrant : ReentrantHost State Fault Ref)
    (held : State → Ref → Option Held)
    (Quiet : State → Prop) :
    Prop where
  get : ∀ ref name state, Quiet state → Quiet (finalState (reentrant.get ref name state))
  activity : ∀ callee arguments state, Quiet state →
    (reentrant.activity callee arguments state).Silent held Quiet state

variable {reentrant : ReentrantHost State Fault Ref}

theorem host_lookup
    (reentrant : ReentrantHost State Fault Ref)
    (depth : Nat) :
    (reentrant.host depth).lookup = reentrant.lookup := by
  cases depth <;> rfl

theorem Silent.lookup
    (silent : reentrant.Silent held Quiet)
    (onlyShows : reentrant.OnlyShows held)
    (container : Value Ref)
    (name : String)
    (quiet : Quiet state) :
    Undisturbed held Quiet state (finalState (reentrant.lookup container name state)) where
  quiet := by
    rcases HostObjects.finalState_lookup container name state with same | ⟨ref, same⟩
    · rw [same]
      exact quiet
    · rw [same]
      exact silent.get ref name state quiet
  preserves := onlyShows.lookup container name state

/-- If the runs inside calls change nothing, then no act does. -/
theorem Silent.perform_hostWith
    (silent : reentrant.Silent held Quiet)
    (onlyShows : reentrant.OnlyShows held)
    {runText : String → EStateM (RunFailure Fault) State Unit}
    (runs : ∀ source asked, Quiet asked →
      Undisturbed held Quiet asked (finalState (runText source asked)))
    (act : Act Ref)
    (state : State)
    (quiet : Quiet state) :
    Undisturbed held Quiet state
      (finalState ((reentrant.hostWith runText).perform act state)) := by
  cases act with
  | lookup container name => exact silent.lookup onlyShows container name quiet
  | call callee arguments => exact (silent.activity callee arguments state quiet).outcome runs

/-- By induction on the depth: what a callable runs is made of acts one level below. -/
theorem Silent.perform
    (silent : reentrant.Silent held Quiet)
    (onlyShows : reentrant.OnlyShows held)
    (depth : Nat)
    (act : Act Ref)
    (state : State)
    (quiet : Quiet state) :
    Undisturbed held Quiet state (finalState ((reentrant.host depth).perform act state)) := by
  induction depth generalizing act state with
  | zero =>
      refine silent.perform_hostWith onlyShows (fun source asked quiet => ?_) act state quiet
      exact .refl quiet
  | succ depth inductionHypothesis =>
      refine silent.perform_hostWith onlyShows (fun source asked quiet => ?_) act state quiet
      have threads := (Request.run source).threads (reentrant.host depth) reentrant.root asked
      exact threads.undisturbed inductionHypothesis quiet

/--
What objects hold is changed by calls alone.  From act to act the state is
handed on as it is, and an act that changes what an object holds is a call.  So
if callables change nothing themselves, then whatever is asked for, completed
or not, every object that there was holds what it held, whether or not it can
be reached from the scope.
-/
theorem changes_by_calls_alone
    (onlyShows : reentrant.OnlyShows held)
    (depth : Nat)
    (scope : Value Ref)
    (request : Request Ref)
    (state : State) :
    let host := reentrant.host depth
    host.Threads state (request.trace host scope state)
        (request.leaves host.access scope state) ∧
      (∀ event ∈ request.trace host scope state,
        ¬Preserves held event.state (finalState (host.perform event.act event.state)) →
          ∃ callee arguments, event.act = .call callee arguments) ∧
      ∀ Quiet : State → Prop, reentrant.Silent held Quiet → Quiet state →
        Preserves held state (request.leaves host.access scope state) := by
  intro host
  have threads := request.threads host scope state
  refine ⟨threads, ?_, ?_⟩
  · rintro ⟨act, asked⟩ _ changes
    cases act with
    | lookup container name =>
        refine absurd ?_ changes
        change Preserves held asked (finalState (host.lookup container name asked))
        rw [host_lookup]
        exact onlyShows.lookup container name asked
    | call callee arguments => exact ⟨callee, arguments, rfl⟩
  · intro Quiet silent quiet
    exact (threads.undisturbed (silent.perform onlyShows depth) quiet).preserves

end ReentrantHost

/-! ## The sandbox -/

namespace Sandbox

/-- What the object of a handle holds in a world. -/
def entriesAt (world : World) (handle : Handle) : Option Entries :=
  (world.cells[handle.slot]?).map (·.entries)

/-- No object assigns anything when it is called. -/
def Unassigning (world : World) : Prop :=
  ∀ (slot : Nat) (cell : Cell), world.cells[slot]? = some cell →
    ∀ conduct, cell.profile.conduct = some conduct → conduct.assignment = none

/-- The same objects hold the same in both worlds, which may differ in what was answered. -/
def SameObjects (world after : World) : Prop :=
  ∀ slot : Nat, (after.cells[slot]?).map (fun cell => (cell.profile, cell.entries)) =
    (world.cells[slot]?).map (fun cell => (cell.profile, cell.entries))

variable {world after : World}

theorem SameObjects.refl
    (world : World) :
    SameObjects world world := by
  intro slot
  rfl

theorem SameObjects.preserves
    (same : SameObjects world after) :
    Preserves entriesAt world after := by
  intro handle entries holds
  have entriesOf (world : World) : entriesAt world handle =
      ((world.cells[handle.slot]?).map fun cell => (cell.profile, cell.entries)).map Prod.snd := by
    rw [Option.map_map]
    rfl
  rw [entriesOf, same, ← entriesOf, holds]

theorem SameObjects.unassigning
    (same : SameObjects world after)
    (unassigning : Unassigning world) :
    Unassigning after := by
  intro slot cell there conduct conducts
  have met := same slot
  rw [there, Option.map_some, eq_comm, Option.map_eq_some_iff] at met
  rcases met with ⟨before, there', sameCell⟩
  obtain ⟨profile, _⟩ := Prod.mk.inj sameCell
  exact unassigning slot before there' conduct (profile ▸ conducts)

theorem SameObjects.undisturbed
    (same : SameObjects world after)
    (unassigning : Unassigning world) :
    Undisturbed entriesAt Unassigning world after :=
  ⟨same.unassigning unassigning, same.preserves⟩

theorem sameObjects_get
    (handle : Handle)
    (name : String)
    (world : World) :
    SameObjects world (finalState (get handle name world)) := by
  have cells : (finalState (get handle name world)).cells = world.cells := by
    unfold get
    repeat' split
    all_goals rfl
  intro slot
  rw [cells]

/-- To give an answer an object only counts it. -/
theorem sameObjects_conclude
    (handle : Handle)
    (conduct : Conduct)
    (arguments : List (Value Handle))
    (world : World) :
    SameObjects world (finalState (conclude handle conduct arguments world)) := by
  unfold conclude
  cases conduct.fault with
  | some fault => exact .refl world
  | none =>
      cases conduct.reply with
      | itself => exact .refl world
      | argument index => exact .refl world
      | answers =>
          intro slot
          simp only [finalState, nextAnswer]
          split
          · rfl
          · simp only [Array.getElem?_modify]
            split
            · rw [Option.map_map]
              rfl
            · rfl

theorem onlyShows_sandbox
    (root : Value Handle) :
    (sandbox root).OnlyShows entriesAt := by
  intro handle name world
  exact (sameObjects_get handle name world).preserves

/-- Behind the check of its arguments a call that assigns nothing changes nothing. -/
theorem silent_proceed
    {conduct : Conduct}
    (noAssignment : conduct.assignment = none)
    (handle : Handle)
    (cell : Cell)
    (arguments : List (Value Handle))
    (unassigning : Unassigning world) :
    (proceed handle cell conduct arguments world).Silent entriesAt Unassigning world := by
  have concluded {world : World} (unassigning : Unassigning world) :=
    (sameObjects_conclude handle conduct arguments world).undisturbed unassigning
  simp only [proceed, noAssignment]
  cases conduct.text with
  | none => exact .settled (concluded unassigning)
  | some text =>
      refine .running (.refl unassigning) fun result quiet => ?_
      cases result with
      | ok _ after => exact .settled (concluded quiet)
      | error failure after => exact .settled (.refl quiet)

/-- In a world without assignments the objects of the sandbox change nothing. -/
theorem silent_sandbox
    (root : Value Handle) :
    (sandbox root).Silent entriesAt Unassigning where
  get handle name world unassigning :=
    (sameObjects_get handle name world).unassigning unassigning
  activity callee arguments world unassigning := by
    change (activity callee arguments world).Silent entriesAt Unassigning world
    unfold activity
    cases there : world.cells[callee.slot]? with
    | none => exact .settled (.refl unassigning)
    | some cell =>
        cases conducts : cell.profile.conduct with
        | none =>
            simp only [conducts]
            exact .settled (.refl unassigning)
        | some conduct =>
            have recorded : SameObjects world
                (world.record (.called cell.profile.id arguments)) := fun _ => rfl
            have quiet := recorded.unassigning unassigning
            have proceeds := silent_proceed
              (unassigning callee.slot cell there conduct conducts) callee cell arguments quiet
            simp only [conducts]
            refine .behind (recorded.undisturbed unassigning) ?_
            split
            · exact proceeds
            · split
              · exact proceeds
              · exact .settled (.refl quiet)

/-! ## A scope that holds itself -/

/-- An object whose calls run a text in which another call raises. -/
def rerunning : Profile :=
  ⟨"again", .record, false, [], some ⟨none, none, some "boom(self.self)", none, .answers⟩⟩

/-- An object whose calls raise. -/
def raising : Profile :=
  ⟨"boom", .record, false, [],
    some ⟨none, none, none, some (.described "ValueError" "boom"), .answers⟩⟩

/-- A world in which the scope of programs holds itself. -/
def circular : World :=
  worldOf [("scope", .object ⟨"scope", .mapping, false, [], none⟩
    [("self", .shared "scope"), ("again", .object rerunning [] none []),
      ("boom", .object raising [] none [])] none [])]

def circularScope : Value Handle :=
  .object ⟨0, "scope", .mapping, false⟩

/-- Programs in the scope, where objects may run texts once more. -/
def circularHost : Host World Sandbox.Fault Handle :=
  (sandbox circularScope).host 1

theorem unassigning_circular : Unassigning circular := by
  have profiles : (circular.cells.toList.map (·.profile)) =
      [⟨"scope", .mapping, false, [], none⟩, rerunning, raising] := by
    decide +kernel
  intro slot cell there conduct conducts
  have member : cell.profile ∈ circular.cells.toList.map (·.profile) :=
    List.mem_map_of_mem (Array.mem_toList_iff.mpr (Array.mem_of_getElem? there))
  rw [profiles] at member
  simp only [List.mem_cons, List.not_mem_nil, or_false] at member
  rcases member with same | same | same
  · simp [same] at conducts
  · rw [same] at conducts
    cases conducts
    rfl
  · rw [same] at conducts
    cases conducts
    rfl

def circularSource : String := "again(self.self x) again()"

/-- The error of the inner text ends the run, and every object holds what it held. -/
theorem changes_by_calls_alone_circular :
    (circularHost.access.run circularScope circularSource).run' circular = none ∧
      (circularHost.runTrace circularScope circularSource circular).names =
        ["self", "self", "x", "again"] ∧
      Preserves entriesAt circular
        (finalState (circularHost.access.run circularScope circularSource circular)) := by
  have failed :
      (circularHost.access.run circularScope circularSource).run' circular = none := by
    decide +kernel
  have names :
      (circularHost.runTrace circularScope circularSource circular).names =
        ["self", "self", "x", "again"] := by
    decide +kernel
  obtain ⟨_, _, preserved⟩ := ReentrantHost.changes_by_calls_alone
    (onlyShows_sandbox circularScope) 1 circularScope (.run circularSource) circular
  exact ⟨failed, names, preserved Unassigning (silent_sandbox circularScope) unassigning_circular⟩

/-- An object that stores its argument in the scope when it is called. -/
def storing : Profile :=
  ⟨"store", .record, false, [],
    some ⟨none, some ⟨"scope", "x", .argument 0⟩, none, none, .answers⟩⟩

-- In a world with assignments a call does change what the scope holds.
example :
    let world := worldOf [("scope", .object ⟨"scope", .mapping, false, [], none⟩
      [("store", .object storing [] none [])] none [])]
    let after := finalState (circularHost.access.run circularScope "store(\"new\")" world)
    entriesAt after ⟨0, "scope", .mapping, false⟩ =
      some [("store", .object ⟨1, "store", .record, true⟩), ("x", .text "new")] := by
  decide +kernel

end Sandbox

end Hostcall
