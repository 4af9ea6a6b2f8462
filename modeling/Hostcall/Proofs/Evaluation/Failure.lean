import Hostcall.Proofs.Evaluation.Account

/-!
# Failing runs

A run fails in one of two ways.  Either its text is no program, and then
nothing was done at all; or one of its acts raised, and then this act is the
last one.

Two hosts are compared as well.  As long as the one returns what the other
returns, a program does the same acts on both, in the same states; and where
the first raises and ends the run, the other may go on.
-/

namespace Hostcall

variable {State Fault Fault' Ref Content Result : Type}

/-! ## Going on where another computation ends -/

/-- While the events allow it, the one does what the other does, and goes on if that has raised. -/
structure GoesOn
    (Allowed : Event State Ref → Prop)
    (computation other : EStateM Fault (State × Trace State Ref) Content) :
    Prop where
  grows : ∀ start, start.2 <+: traceOf (computation start)
  onward : ∀ start, start.2 <+: traceOf (other start)
  same : ∀ {start content after}, computation start = .ok content after →
    (∀ event ∈ after.2, Allowed event) → other start = .ok content after
  further : ∀ start, (∀ event ∈ traceOf (computation start), Allowed event) →
    traceOf (computation start) <+: traceOf (other start)

namespace GoesOn

variable {Allowed : Event State Ref → Prop}

theorem pure
    (content : Content) :
    GoesOn Allowed (Pure.pure content : EStateM Fault (State × Trace State Ref) Content)
      (Pure.pure content) where
  grows _ := List.prefix_rfl
  onward _ := List.prefix_rfl
  same returned _ := returned
  further _ _ := List.prefix_rfl

theorem raise
    (fault : Fault) :
    GoesOn Allowed (throw fault : EStateM Fault (State × Trace State Ref) Content)
      (throw fault) where
  grows _ := List.prefix_rfl
  onward _ := List.prefix_rfl
  same returned _ := returned
  further _ _ := List.prefix_rfl

/-- A trace that has grown keeps growing. -/
theorem grows_bind
    (first : EStateM Fault (State × Trace State Ref) Content)
    {next : Content → EStateM Fault (State × Trace State Ref) Result}
    (grows : ∀ content start, start.2 <+: traceOf (next content start))
    (start : State × Trace State Ref) :
    traceOf (first start) <+: traceOf ((first >>= next) start) := by
  simp only [Bind.bind, EStateM.bind]
  cases first start with
  | ok content middle => exact grows content middle
  | error fault middle => exact List.prefix_rfl

theorem bind
    {first first' : EStateM Fault (State × Trace State Ref) Content}
    {next next' : Content → EStateM Fault (State × Trace State Ref) Result}
    (before : GoesOn Allowed first first')
    (after : ∀ content, GoesOn Allowed (next content) (next' content)) :
    GoesOn Allowed (first >>= next) (first' >>= next') := by
  have grown := grows_bind first fun content => (after content).grows
  have grown' := grows_bind first' fun content => (after content).onward
  constructor
  · intro start
    exact (before.grows start).trans (grown start)
  · intro start
    exact (before.onward start).trans (grown' start)
  · intro start content finish returned allowed
    simp only [Bind.bind, EStateM.bind] at returned ⊢
    cases ended : first start with
    | error fault middle =>
        rw [ended] at returned
        cases returned
    | ok value middle =>
        rw [ended] at returned
        have kept : middle.2 <+: finish.2 := by
          have kept := (after value).grows middle
          rwa [show next value middle = .ok content finish from returned] at kept
        rw [before.same ended fun event member => allowed event (kept.subset member)]
        exact (after value).same returned allowed
  · intro start allowed
    have reached := grown start
    have reached' := grown' start
    simp only [Bind.bind, EStateM.bind] at allowed reached reached' ⊢
    cases ended : first start with
    | ok value middle =>
        rw [ended] at allowed reached
        have same := before.same ended fun event member => allowed event (reached.subset member)
        rw [same]
        exact (after value).further middle allowed
    | error fault middle =>
        rw [ended] at allowed
        have further := before.further start
        rw [ended] at further
        exact (further allowed).trans reached'

/-- Other names for the errors change nothing. -/
theorem adaptExcept
    {computation other : EStateM Fault (State × Trace State Ref) Content}
    (goesOn : GoesOn Allowed computation other)
    (rename : Fault → Fault') :
    GoesOn Allowed (computation.adaptExcept rename) (other.adaptExcept rename) := by
  have traces (any : EStateM Fault (State × Trace State Ref) Content)
      (start : State × Trace State Ref) :
      traceOf (any.adaptExcept rename start) = traceOf (any start) := by
    rw [EStateM.adaptExcept]
    cases any start <;> rfl
  constructor
  · intro start
    rw [traces]
    exact goesOn.grows start
  · intro start
    rw [traces]
    exact goesOn.onward start
  · intro start content after returned allowed
    rw [EStateM.adaptExcept] at returned ⊢
    cases ended : computation start with
    | ok value finish =>
        rw [ended] at returned
        cases returned
        rw [goesOn.same ended allowed]
    | error fault finish =>
        rw [ended] at returned
        cases returned
  · intro start
    rw [traces, traces]
    exact goesOn.further start

end GoesOn

namespace Host

/-! ## Hosts that uphold what another returns -/

/-- If the host returns at an event, then the other one returns the same there. -/
def UpheldBy (host other : Host State Fault Ref) (event : Event State Ref) : Prop :=
  ∀ value after, host.perform event.act event.state = .ok value after →
    other.perform event.act event.state = .ok value after

theorem upheldBy_of_raises
    {host : Host State Fault Ref}
    {event : Event State Ref}
    {fault : Fault}
    {after : State}
    (raises : host.Raises event.act event.state fault after)
    (other : Host State Fault Ref) :
    host.UpheldBy other event := by
  intro value finish performed
  rw [perform_eq_error_iff.mpr raises] at performed
  cases performed

variable {host other : Host State Fault Ref}

theorem goesOn_note
    (act : Act Ref) :
    GoesOn (host.UpheldBy other) (host.note act) (other.note act) := by
  constructor
  · rintro ⟨state, past⟩
    rw [traceOf_note]
    exact List.prefix_append _ _
  · rintro ⟨state, past⟩
    rw [traceOf_note]
    exact List.prefix_append _ _
  · rintro ⟨state, past⟩ value after noted upheld
    change traced (host.perform act state) (past ++ [⟨act, state⟩]) = _ at noted
    change traced (other.perform act state) (past ++ [⟨act, state⟩]) = _
    cases performed : host.perform act state with
    | ok value middle =>
        rw [performed] at noted
        cases noted
        rw [upheld ⟨act, state⟩ (by simp) value middle performed]
        rfl
    | error fault middle =>
        rw [performed] at noted
        cases noted
  · rintro ⟨state, past⟩ _
    simp only [traceOf_note, List.prefix_rfl]

theorem composes_goesOn
    (callable : other.callable = host.callable) :
    Composes (fun _ => GoesOn (host.UpheldBy other)) host.tracing other.tracing where
  pure := GoesOn.pure
  bind := GoesOn.bind
  lookup container name := goesOn_note (.lookup container name)
  invoke callee arguments := by
    cases callee with
    | object ref =>
        simp only [tracing, callable]
        split
        · exact goesOn_note (.call ref arguments)
        · exact .pure _
    | null | bool | int | text | list => exact .pure _

theorem goesOn_run
    (callable : other.callable = host.callable)
    (scope : Value Ref)
    (source : String) :
    GoesOn (host.UpheldBy other) (host.tracing.run scope source)
      (other.tracing.run scope source) := by
  cases read : readSource source with
  | error error =>
      rw [Access.run_of_error read, Access.run_of_error read]
      exact .raise _
  | ok body =>
      rw [Access.run_of_ok read, Access.run_of_ok read]
      exact ((composes_goesOn callable).execute body scope).adaptExcept _

variable {scope : Value Ref} {source : String} {state after : State}

/-- Where all that the run is given is upheld, the other run does the same acts first. -/
theorem runTrace_begins
    (callable : other.callable = host.callable)
    (upheld : ∀ event ∈ host.runTrace scope source state, host.UpheldBy other event) :
    host.runTrace scope source state <+: other.runTrace scope source state :=
  (goesOn_run callable scope source).further (state, []) upheld

theorem run_eq_ok_of_upheld
    (callable : other.callable = host.callable)
    (upheld : ∀ event ∈ host.runTrace scope source state, host.UpheldBy other event)
    (completed : host.access.run scope source state = .ok () after) :
    other.access.run scope source state = .ok () after := by
  have ended : host.tracing.run scope source (state, []) =
      .ok () (after, host.runTrace scope source state) := by
    rw [tracing_run, completed]
    rfl
  have ended' := (goesOn_run callable scope source).same ended upheld
  rw [tracing_run] at ended'
  cases finished : other.access.run scope source state with
  | ok _ finish =>
      simp only [finished, traced, EStateM.Result.ok.injEq, Prod.mk.injEq] at ended'
      rw [ended'.2.1]
  | error failure finish =>
      rw [finished] at ended'
      cases ended'

/-! ## How a run ends -/

/-- A run that is completed has met no error. -/
theorem run_quiet
    (completed : host.access.run scope source state = .ok () after) :
    ∀ event ∈ host.runTrace scope source state, ¬host.RaisesAt event := by
  rcases Access.run_eq_ok_iff.mp completed with ⟨body, read, executed⟩
  have explains := host.explains_execute body scope state
  rw [executed, ← runTrace_of_ok read] at explains
  exact explains.quiet

/-- A run that met an error ended with the act that raised it. -/
theorem exists_last_of_run_eq_raised
    {fault : Fault}
    (failed : host.access.run scope source state = .error (.raised fault) after) :
    ∃ earlier last, host.runTrace scope source state = earlier ++ [last] ∧
      (∀ event ∈ earlier, ¬host.RaisesAt event) ∧
      host.Raises last.act last.state fault after := by
  rcases Access.run_eq_error_iff.mp failed with ⟨_, _, ⟨⟩, _⟩ | ⟨body, _, read, ⟨⟩, executed⟩
  have explains := host.explains_execute body scope state
  rw [executed, ← runTrace_of_ok read] at explains
  generalize host.runTrace scope source state = acts at explains
  cases explains with
  | raised _ quiet raises => exact ⟨_, _, rfl, quiet, raises⟩

/-- No error that is met in a run is kept from ending it. -/
theorem run_eq_error_of_raises
    {event : Event State Ref}
    {fault : Fault}
    (met : event ∈ host.runTrace scope source state)
    (raises : host.Raises event.act event.state fault after) :
    host.access.run scope source state = .error (.raised fault) after := by
  cases ended : host.access.run scope source state with
  | ok content finish => exact absurd ⟨fault, after, raises⟩ (run_quiet ended event met)
  | error failure finish =>
      cases failure with
      | source error =>
          rcases Access.run_eq_error_iff.mp ended with ⟨_, read, _⟩ | ⟨_, _, _, ⟨⟩, _⟩
          rw [runTrace_of_error read] at met
          cases met
      | raised other =>
          rcases exists_last_of_run_eq_raised ended with ⟨earlier, last, trace, quiet, ends⟩
          rw [trace] at met
          rcases List.mem_append.mp met with before | final
          · exact absurd ⟨fault, after, raises⟩ (quiet event before)
          · obtain rfl := List.mem_singleton.mp final
            have same := (perform_eq_error_iff.mpr ends).symm.trans
              (perform_eq_error_iff.mpr raises)
            cases same
            rfl

/-- Where the other host does the same at everything that the run does, the run ends the same. -/
theorem run_eq_of_perform_eq
    (callable : other.callable = host.callable)
    (same : ∀ event ∈ host.runTrace scope source state,
      other.perform event.act event.state = host.perform event.act event.state) :
    other.access.run scope source state = host.access.run scope source state := by
  have upheld : ∀ event ∈ host.runTrace scope source state, host.UpheldBy other event :=
    fun event member value after performed => (same event member).trans performed
  cases ended : host.access.run scope source state with
  | ok content after => exact run_eq_ok_of_upheld callable upheld ended
  | error failure after =>
      cases failure with
      | source error =>
          rcases Access.run_eq_error_iff.mp ended with ⟨_, read, ⟨⟩, rfl⟩ | ⟨_, _, _, ⟨⟩, _⟩
          exact Access.run_eq_error_of_error read _ _ _
      | raised fault =>
          rcases exists_last_of_run_eq_raised ended with ⟨earlier, last, trace, _, raises⟩
          have member : last ∈ host.runTrace scope source state := by
            rw [trace]
            exact List.mem_append_right earlier List.mem_cons_self
          have raises' : other.Raises last.act last.state fault after := by
            rw [← perform_eq_error_iff, same last member]
            exact perform_eq_error_iff.mpr raises
          exact run_eq_error_of_raises ((runTrace_begins callable upheld).subset member) raises'

end Host

end Hostcall
